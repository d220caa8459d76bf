import Preflight.FileSystem.Disk
import Preflight.Project
import Preflight.Text.Utf8

/-!
Reading the files of a project as text, and the three states in which a check finds a source:
absent, there but not readable as text, or readable.
-/

namespace Preflight

inductive ReadError where
  | access (path : String) (cause : AccessFault)
  | decoding (path : String) (cause : Text.Utf8.Fault)
  deriving DecidableEq, Repr

inductive ReadErrorKind where
  | io
  | decode
  deriving DecidableEq, Repr

namespace ReadError

def kind : ReadError → ReadErrorKind
  | access .. => .io
  | decoding .. => .decode

def message : ReadError → String
  | access path cause => "failed to read " ++ path ++ ": " ++ cause.message
  | decoding path cause => path ++ " is not valid UTF-8: " ++ cause.message

end ReadError

def ReadErrorKind.name : ReadErrorKind → String
  | .io => "io"
  | .decode => "decode"

def readText (disk : Disk) (path : String) : Except ReadError String :=
  match disk.read path with
  | .error cause => .error (.access path cause)
  | .ok bytes =>
      match Text.Utf8.decode bytes with
      | .error cause => .error (.decoding path cause)
      | .ok text => .ok text

/-- How a check finds a source. -/
inductive Source where
  | absent
  | unreadable (error : ReadError)
  | readable (text : String)
  deriving DecidableEq, Repr

/-- How a check finds the source at a path of the layout. Only a source that exists is read. -/
def Project.source (project : Project) (disk : Disk) (path : String) : Source :=
  if disk.has (project.resolve path) then
    match readText disk (project.resolve path) with
    | .error error => .unreadable error
    | .ok text => .readable text
  else .absent

end Preflight
