import Preflight.Check.Basic
import Preflight.Check.Finding

/-!
The check that every entry of the layout exists.
-/

namespace Preflight.Check

/-- The paths of the layout that lead nowhere, in order. -/
def missingPaths (project : Project) (disk : Disk) : List String :=
  project.layout.paths.filter fun path => !disk.has (project.resolve path)

def checkPresence (project : Project) (disk : Disk) : CheckResult :=
  .ofFindings Check.presence.title ((missingPaths project disk).map .missingFile)

end Preflight.Check
