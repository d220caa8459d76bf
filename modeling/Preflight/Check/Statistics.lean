import Preflight.Check.Basic
import Preflight.Check.Finding

/-!
Code statistics over the sources whose lines are counted. They inform and never fail; a source that
cannot be read is noted and left out.
-/

namespace Preflight.Check

/-- The number of lines of a text: one more than it has line breaks. -/
def countLines (text : String) : Nat :=
  text.toList.count '\n' + 1

/-- The statistics of files with so many lines each. -/
def summarize (counts : List Nat) : Metrics :=
  let lines := counts.foldl (· + ·) 0
  { totalFiles := counts.length
    totalLines := lines
    averageLines := lines / counts.length }

/-- The notes that the statistics make on one source. -/
def statisticsFindings (path : String) : Source → List Finding
  | .unreadable error => [.ofSourceError path error]
  | _ => []

/-- The number of lines that one source adds, if it is counted. -/
def lineCount? : Source → Option Nat
  | .readable text => some (countLines text)
  | _ => none

def checkStatistics (project : Project) (disk : Disk) : CheckResult :=
  let sources := project.layout.countedSources
  let counts := sources.filterMap fun path => lineCount? (project.source disk path)
  { name := Check.statistics.title
    passed := true
    findings := sources.flatMap fun path => statisticsFindings path (project.source disk path)
    metrics := some (summarize counts) }

end Preflight.Check
