import Preflight.FileSystem.Disk
import Preflight.Path.Basic
import Preflight.Text.Utf8

/-!
A file system of directories, files and symbolic links, and the walk that follows a path through
it.

A place is the list of names that leads to it from the top without links or dots. The walk reads
the segments of a path one by one; each segment, even an empty one or a dot, needs a directory to
stand in. A link is replaced by its target, at most forty times in one walk.
-/

namespace Preflight

/-- The names that lead to a place from the top of the file system. -/
abbrev Place := List String

/-- What a file system holds at a place. -/
inductive Node where
  | file (bytes : List UInt8)
  | directory
  | link (target : String)
  /-- A file, a device or a socket that cannot be opened, and the fault of trying. -/
  | locked (fault : AccessFault)
  deriving DecidableEq, Repr

/-- What a file system holds at each place, if anything. -/
structure FileSystem where
  node? : Place → Option Node

namespace FileSystem

/-- The file system that holds nothing but its top. -/
def empty : FileSystem := ⟨fun _ => none⟩

def maxLinks : Nat := 40

def maxNameBytes : Nat := 255

def maxPathBytes : Nat := 4095

/-- Whether there is a file at a place, or something else that is locked. -/
def isFile (fs : FileSystem) (place : Place) : Bool :=
  match fs.node? place with
  | some (.file _) => true
  | some (.locked _) => true
  | _ => false

/-- Where a path starts that is read in the directory `here`. -/
def start (here : Place) (path : String) : Place :=
  if Path.isAbsolute path then [] else here

/-- Walk from `here` along some segments; `follow` goes on when a link has been replaced by its
target. -/
def walkFrom (fs : FileSystem) (follow : Place → List String → Except AccessFault Place) :
    Place → List String → Except AccessFault Place
  | here, [] => .ok here
  | here, segment :: rest =>
      if fs.isFile here then .error .notDirectory
      else if segment = "" ∨ segment = "." then fs.walkFrom follow here rest
      else if segment = ".." then fs.walkFrom follow here.dropLast rest
      else if segment.utf8ByteSize > maxNameBytes then .error .nameTooLong
      else
        match fs.node? (here ++ [segment]) with
        | none => .error .notFound
        | some (.link target) => follow (start here target) (Path.segments target ++ rest)
        | some _ => fs.walkFrom follow (here ++ [segment]) rest

/-- The place that some segments lead to from `here`, when this many links may still be
followed. -/
def walk (fs : FileSystem) : Nat → Place → List String → Except AccessFault Place
  | 0 => fs.walkFrom fun _ _ => .error .tooManyLinks
  | links + 1 => fs.walkFrom (fs.walk links)

/-- The place that a path leads to when the working directory is `here`. -/
def locate (fs : FileSystem) (here : Place) (path : String) : Except AccessFault Place :=
  if '\x00' ∈ path.toList then .error .nulInPath
  else if path = "" then .error .notFound
  else if path.utf8ByteSize > maxPathBytes then .error .nameTooLong
  else fs.walk maxLinks (start here path) (Path.segments path)

/-- What stands at a place that a walk has come to. -/
def found (fs : FileSystem) (place : Place) : Found :=
  match fs.node? place with
  | some (.file bytes) => .file bytes
  | some (.locked fault) => .locked fault
  | _ => .directory

theorem read_found_eq_ok_iff {fs : FileSystem} {place : Place} {bytes : List UInt8} :
    (fs.found place).read = .ok bytes ↔ fs.node? place = some (.file bytes) := by
  rw [found]
  cases fs.node? place with
  | none => simp [Found.read]
  | some node => cases node <;> simp [Found.read]

/-- What is found at the end of a path when the working directory is `here`. -/
def look (fs : FileSystem) (here : Place) (path : String) : Except AccessFault Found :=
  (fs.locate here path).map fs.found

/-- The file system as a run in the directory `here` sees it. -/
def disk (fs : FileSystem) (here : Place) : Disk := .ofLook (fs.look here)

/-- Whether a place is a directory. The top always is one. -/
def isDirectory (fs : FileSystem) (place : Place) : Bool :=
  place.isEmpty || fs.node? place == some .directory

end FileSystem

def Place.path (place : Place) : String :=
  "/" ++ String.intercalate "/" place

/-- The path of a working directory, which can be told as long as the directory is there. -/
def FileSystem.workingDirectory (fs : FileSystem) (here : Place) : Except AccessFault String :=
  if fs.isDirectory here then .ok (Place.path here) else .error .notFound

end Preflight
