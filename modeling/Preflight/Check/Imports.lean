import Preflight.Check.Basic
import Preflight.Check.Finding
import Preflight.Import.Directive
import Preflight.Text.Occurrence

/-!
The check that import targets are relative or exempt.

A source that is missing is left to the check of presence; one that cannot be read is reported here
and the others are scanned all the same.
-/

namespace Preflight.Check

/-- Whether a target may stand in an import: it begins with an exempt beginning or with a dot. -/
def isWellFormed (exempt : List String) (target : String) : Bool :=
  exempt.any (Text.beginsWith target) || Text.beginsWith target "."

/-- What the check of imports finds in one source. -/
def importFindings (exempt : List String) (path : String) : Source → List Finding
  | .absent => []
  | .unreadable error => [.ofSourceError path error]
  | .readable text =>
      ((Import.targets text).filter fun target => !isWellFormed exempt target).map
        (.malformedImport path)

def checkImports (project : Project) (disk : Disk) : CheckResult :=
  .ofFindings Check.imports.title <|
    project.layout.importSources.flatMap fun path =>
      importFindings project.layout.exemptPrefixes path (project.source disk path)

end Preflight.Check
