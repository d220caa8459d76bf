import Preflight.Report.Basic
import Preflight.Terminal.Style

/-!
The report as text for people. It is one list of spans; the plain and the coloured rendering differ
only in the codes around the styled ones.
-/

namespace Preflight.Report

open Terminal (Span)

/-- The status of a check in a few words. -/
def status (result : CheckResult) : String :=
  if result.passed then
    if result.findings.isEmpty then "clean"
    else "passed with " ++ toString result.findings.length ++ " note(s)"
  else toString result.findings.length ++ " problem(s)"

/-- The line with the mark, the name and the status of a check. -/
def headSpans (result : CheckResult) : List Span :=
  let style : Terminal.Style := if result.passed then .green else .red
  let mark := if result.passed then "✓" else "✗"
  [.styled style mark, .plain (" " ++ result.name ++ ": "), .styled style (status result),
    .plain "\n"]

def findingSpans (finding : Finding) : List Span :=
  [.plain "    - ", .styled .dimmed finding.describe, .plain "\n"]

def metricsSpans (metrics : Metrics) : List Span :=
  [.plain ("    - Total files: " ++ toString metrics.totalFiles ++ "\n"),
    .plain ("    - Total lines: " ++ toString metrics.totalLines ++ "\n"),
    .plain ("    - Average lines per file: " ++ toString metrics.averageLines ++ "\n")]

def resultSpans (result : CheckResult) : List Span :=
  headSpans result ++ result.findings.flatMap findingSpans
    ++ (match result.metrics with
      | none => []
      | some metrics => metricsSpans metrics)

def nextSteps : List String :=
  ["Install the Flutter SDK",
    "Run 'flutter pub get' to fetch dependencies",
    "Run 'flutter run' to launch the app",
    "Run 'flutter test' to run the test suite"]

/-- Steps in order, numbered from `first`. -/
def stepSpans : Nat → List String → List Span
  | _, [] => []
  | first, step :: rest =>
      .plain ("  " ++ toString first ++ ". " ++ step ++ "\n") :: stepSpans (first + 1) rest

def installTip : String :=
  "Tip: if Flutter is not installed, see https://flutter.dev/docs/get-started/install"

def tally (report : Report) : String :=
  toString report.passedCount ++ "/" ++ toString report.total ++ " checks passed"

/-- The verdict in words, with what to do next. -/
def verdictSpans (report : Report) : List Span :=
  if report.allPassed then
    [.styled .green (report.tally ++ "."), .plain "\n", .plain "\nNext steps:\n"]
      ++ stepSpans 1 nextSteps
  else
    [.styled .yellow (report.tally ++ ". Fix the problems listed above and run again."),
      .plain "\n"]

def spans (report : Report) : List Span :=
  [.styled .bold "\n=== Project Preflight ===\n", .plain "\n"]
    ++ report.results.flatMap resultSpans
    ++ [.styled .bold "\n--- Summary ---\n", .plain "\n"]
    ++ verdictSpans report
    ++ [.plain "\n", .styled .dimmed installTip, .plain "\n"]

/-- The pieces in which the report is written as text. -/
def textPieces (coloured : Bool) (report : Report) : List String :=
  report.spans.flatMap (·.pieces coloured)

end Preflight.Report
