import Preflight.Log.Event
import Preflight.Source

/-!
The events that reading the files of a project leaves behind.
-/

namespace Preflight.Log

/-- The event of reading a file, which is logged once its bytes are there, text or not. -/
def ofRead (disk : Disk) (path : String) : List Event :=
  match disk.read path with
  | .ok bytes => [.readFile path bytes.length]
  | .error _ => []

/-- The events that a check leaves when it goes through the source at a path of the layout. -/
def ofSource (check : Check) (project : Project) (disk : Disk) (path : String) : List Event :=
  match project.source disk path with
  | .absent => []
  | .unreadable error =>
      ofRead disk (project.resolve path) ++ [.skipped check path error.message]
  | .readable _ => ofRead disk (project.resolve path)

end Preflight.Log
