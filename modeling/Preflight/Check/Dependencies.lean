import Preflight.Check.Basic
import Preflight.Check.Finding
import Preflight.Text.Occurrence

/-!
The check that the manifest names every required dependency.

A name counts as present wherever it occurs in the text of the manifest, in a comment or inside
another name as well.
-/

namespace Preflight.Check

/-- The required names that do not occur in a text, in order. -/
def missingDependencies (text : String) (required : List String) : List String :=
  required.filter fun name => !Text.contains text name

/-- What the check of dependencies finds in the manifest at a path. -/
def dependencyFindings (required : List String) (path : String) :
    Except ReadError String → List Finding
  | .error error => [.ofManifestError path error]
  | .ok text => (missingDependencies text required).map .missingDependency

def checkDependencies (project : Project) (disk : Disk) : CheckResult :=
  let manifest := project.layout.manifest
  .ofFindings Check.dependencies.title <|
    dependencyFindings project.layout.requiredDependencies manifest
      (readText disk (project.resolve manifest))

end Preflight.Check
