import Preflight.Json.Value
import Preflight.Report.Basic

/-!
The report as a JSON document. Every finding carries its kind; statistics appear only where a check
has them.
-/

namespace Preflight

def Finding.toJson : Finding → Json.Value
  | missingFile path => .object [("kind", .text "missing_file"), ("path", .text path)]
  | malformedImport file target =>
      .object
        [("kind", .text "malformed_import"), ("file", .text file), ("target", .text target)]
  | fileRead path kind message =>
      .object
        [("kind", .text "file_read"), ("path", .text path), ("error", .text kind.name),
          ("message", .text message)]
  | manifestRead path kind message =>
      .object
        [("kind", .text "manifest_read"), ("path", .text path), ("error", .text kind.name),
          ("message", .text message)]
  | missingDependency name =>
      .object [("kind", .text "missing_dependency"), ("name", .text name)]

def Metrics.toJson (metrics : Metrics) : Json.Value :=
  .object
    [("total_files", .number metrics.totalFiles),
      ("total_lines", .number metrics.totalLines),
      ("average_lines", .number metrics.averageLines)]

/-- The JSON form of the result of a check. -/
def CheckResult.toJson (result : CheckResult) : Json.Value :=
  .object <|
    [("name", .text result.name),
      ("passed", .boolean result.passed),
      ("findings", .array (result.findings.map Finding.toJson))]
      ++ (match result.metrics with
        | none => []
        | some metrics => [("metrics", metrics.toJson)])

def Report.toJson (report : Report) : Json.Value :=
  .object
    [("passed", .boolean report.allPassed),
      ("passed_checks", .number report.passedCount),
      ("total_checks", .number report.total),
      ("checks", .array (report.results.map CheckResult.toJson))]

/-- The pieces in which the report is written as JSON, on lines of its own. -/
def Report.jsonPieces (report : Report) : List String :=
  report.toJson.pieces 0 ++ ["\n"]

end Preflight
