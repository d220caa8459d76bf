import Preflight.Check.Dependencies
import Preflight.Check.Imports
import Preflight.Check.Presence
import Preflight.Check.Statistics
import Preflight.Log.Trail
import Preflight.Report.Basic

/-!
A run of the checks: their results in order, and the events they leave on the way. No check depends
on the result of another.
-/

namespace Preflight

namespace Check

def result (project : Project) (disk : Disk) : Check → CheckResult
  | presence => checkPresence project disk
  | imports => checkImports project disk
  | dependencies => checkDependencies project disk
  | statistics => checkStatistics project disk

/-- The events that a check leaves before it comes to its result. -/
def events (project : Project) (disk : Disk) : Check → List Log.Event
  | presence => []
  | imports => project.layout.importSources.flatMap (Log.ofSource .imports project disk)
  | dependencies => Log.ofRead disk (project.resolve project.layout.manifest)
  | statistics => project.layout.countedSources.flatMap (Log.ofSource .statistics project disk)

/-- The event of a check that has come to its result. -/
def finishedEvent (check : Check) (result : CheckResult) : Log.Event :=
  .finished check result.passed result.findings.length

end Check

def Project.run (project : Project) (disk : Disk) : Report :=
  ⟨Check.all.map (Check.result project disk)⟩

def Project.runEvents (project : Project) (disk : Disk) : List Log.Event :=
  Check.all.flatMap fun check =>
    Check.events project disk check
      ++ [Check.finishedEvent check (Check.result project disk check)]

end Preflight
