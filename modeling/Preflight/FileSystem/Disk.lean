import Preflight.FileSystem.Fault

/-!
What a run learns about files, and nothing else: whether a path leads to anything, and which bytes
are read there.

These are two questions. What stands at the end of a path can refuse to be read, by being a
directory or by being locked, so a read that fails says nothing about existence. What can be read
exists.
-/

namespace Preflight

/-- What stands at the end of a path. -/
inductive Found where
  | file (bytes : List UInt8)
  | directory
  /-- A file, a device or a socket that cannot be opened, and the fault of trying. -/
  | locked (fault : AccessFault)
  deriving DecidableEq, Repr

def Found.read : Found → Except AccessFault (List UInt8)
  | file bytes => .ok bytes
  | directory => .error .isDirectory
  | locked fault => .error fault

/-- A view of the files in reach, by paths that are read from the working directory. -/
structure Disk where
  /-- Whether a path leads to anything. A fault of any kind on the way counts as absence. -/
  has : String → Bool
  read : String → Except AccessFault (List UInt8)
  /-- What can be read exists. -/
  has_of_read {path : String} {bytes : List UInt8} : read path = .ok bytes → has path = true

/-- The disk on which each path leads to what a look at it finds, or nowhere. -/
def Disk.ofLook (look : String → Except AccessFault Found) : Disk where
  has path := (look path).isOk
  read path := (look path).bind Found.read
  has_of_read {path} {bytes} read := by
    cases found : look path with
    | ok found => rfl
    | error fault =>
      rw [found] at read
      cases read

end Preflight
