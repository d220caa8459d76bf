import Preflight.Proofs.Report.Render
import Preflight.Proofs.Report.Wording
import Preflight.Proofs.Text.Lines

/-!
The plain text of a report, line by line.

A check takes one line with its mark, its name and its status, one for each finding, and three for
its statistics if it has some. The summary is set off by blank lines, and so is the tip at the end.
The text itself is made of spans, which keep to no lines; here it is shown to be the same text.
-/

namespace Preflight

open Terminal (Span)
open Text (OneLine ofLines ofLines_append oneLine_append oneLine_ofList oneLine_toString)

/-! ## The lines -/

/-- What stands in front of a finding and of a line of statistics. -/
def Report.bullet : String := "    - "

def Metrics.items (metrics : Metrics) : List String :=
  ["Total files: " ++ toString metrics.totalFiles, "Total lines: " ++ toString metrics.totalLines,
    "Average lines per file: " ++ toString metrics.averageLines]

namespace CheckResult

/-- The line with the mark, the name and the status of a check. -/
def headLine (result : CheckResult) : String :=
  (if result.passed then "✓ " else "✗ ") ++ result.name ++ ": " ++ Report.status result

/-- What is listed below that line: the findings, and the statistics if there are some. -/
def items (result : CheckResult) : List String :=
  result.findings.map Finding.describe ++ result.metrics.elim [] Metrics.items

def lines (result : CheckResult) : List String :=
  result.headLine :: result.items.map (Report.bullet ++ ·)

end CheckResult

namespace Report

/-- How a report ends of which all checks have passed, as many as there are. -/
def passedEnding (count : Nat) : List String :=
  [toString count ++ "/" ++ toString count ++ " checks passed.",
    "",
    "Next steps:",
    "  1. Install the Flutter SDK",
    "  2. Run 'flutter pub get' to fetch dependencies",
    "  3. Run 'flutter run' to launch the app",
    "  4. Run 'flutter test' to run the test suite",
    "",
    "Tip: if Flutter is not installed, see https://flutter.dev/docs/get-started/install"]

/-- How a report ends of which some check has failed. -/
def failedEnding (passed total : Nat) : List String :=
  [toString passed ++ "/" ++ toString total ++
      " checks passed. Fix the problems listed above and run again.",
    "",
    "Tip: if Flutter is not installed, see https://flutter.dev/docs/get-started/install"]

def ending (report : Report) : List String :=
  if report.allPassed then passedEnding report.total
  else failedEnding report.passedCount report.total

def lines (report : Report) : List String :=
  ["", "=== Project Preflight ===", ""] ++ report.results.flatMap CheckResult.lines ++
    ["", "--- Summary ---", ""] ++ report.ending

/-! ## Single lines -/

theorem oneLine_tally (passed total : Nat) {after : String} (single : OneLine after) :
    OneLine (toString passed ++ "/" ++ toString total ++ after) := by
  simp only [oneLine_append]
  exact ⟨⟨⟨oneLine_toString passed, oneLine_ofList (by decide)⟩, oneLine_toString total⟩, single⟩

theorem oneLine_passedEnding (count : Nat) : ∀ line ∈ passedEnding count, OneLine line := by
  refine List.forall_mem_cons.2 ⟨oneLine_tally count count (oneLine_ofList (by decide)), ?_⟩
  decide +kernel

theorem oneLine_failedEnding (passed total : Nat) :
    ∀ line ∈ failedEnding passed total, OneLine line := by
  refine List.forall_mem_cons.2 ⟨oneLine_tally passed total (oneLine_ofList (by decide)), ?_⟩
  decide +kernel

/-- Whether the names of a report and the texts of its findings hold no line break. -/
def IsOneLined (report : Report) : Prop :=
  ∀ result ∈ report.results,
    OneLine result.name ∧ ∀ finding ∈ result.findings, ∀ text ∈ finding.strings, OneLine text

instance : DecidablePred IsOneLined := fun report =>
  List.decidableBAll _ report.results

theorem oneLine_metrics (metrics : Metrics) : ∀ item ∈ metrics.items, OneLine item := by
  have number {label : String} (single : OneLine label) (count : Nat) :
      OneLine (label ++ toString count) :=
    oneLine_append.2 ⟨single, oneLine_toString count⟩
  simp only [Metrics.items, List.forall_mem_cons, List.not_mem_nil, false_implies, implies_true,
    and_true]
  exact ⟨number (oneLine_ofList (by decide)) _, number (oneLine_ofList (by decide)) _,
    number (oneLine_ofList (by decide)) _⟩

theorem oneLine_items {result : CheckResult}
    (single : ∀ finding ∈ result.findings, ∀ text ∈ finding.strings, OneLine text) :
    ∀ item ∈ result.items, OneLine item := by
  rw [CheckResult.items, List.forall_mem_append]
  constructor
  · intro item listed
    obtain ⟨finding, among, rfl⟩ := List.mem_map.1 listed
    exact Finding.notMem_describe (by decide) (single finding among)
  · cases result.metrics with
    | none => exact fun _ listed => by cases listed
    | some metrics => exact oneLine_metrics metrics

theorem oneLine_headLine {result : CheckResult} (single : OneLine result.name) :
    OneLine result.headLine := by
  have mark : OneLine (if result.passed then "✓ " else "✗ ") := by
    split_ifs <;> exact oneLine_ofList (by decide)
  simp only [CheckResult.headLine, oneLine_append]
  exact ⟨⟨⟨mark, single⟩, oneLine_ofList (by decide)⟩,
    notMem_status (by decide) (by decide) result⟩

theorem oneLine_ending (report : Report) : ∀ line ∈ report.ending, OneLine line := by
  unfold ending
  split
  · exact oneLine_passedEnding _
  · exact oneLine_failedEnding _ _

/-- No line of a report holds a line break unless a name or a finding brings it. -/
theorem oneLine_lines {report : Report} (single : report.IsOneLined) :
    ∀ line ∈ report.lines, OneLine line := by
  have heading {text : String} (bare : OneLine text) : ∀ line ∈ ["", text, ""], OneLine line := by
    have blank : OneLine "" := oneLine_ofList (by decide)
    simp only [List.forall_mem_cons, List.not_mem_nil, false_implies, implies_true, and_true]
    exact ⟨blank, bare, blank⟩
  have bullets {items : List String} (bare : ∀ item ∈ items, OneLine item) :
      ∀ line ∈ items.map (bullet ++ ·), OneLine line := by
    intro line listed
    obtain ⟨item, among, rfl⟩ := List.mem_map.1 listed
    exact oneLine_append.2 ⟨oneLine_ofList (by decide), bare item among⟩
  have results : ∀ line ∈ report.results.flatMap CheckResult.lines, OneLine line := by
    intro line listed
    obtain ⟨result, among, also⟩ := List.mem_flatMap.1 listed
    obtain ⟨name, findings⟩ := single result among
    exact List.forall_mem_cons.2 ⟨oneLine_headLine name, bullets (oneLine_items findings)⟩ line also
  simp only [lines, List.forall_mem_append]
  exact ⟨⟨⟨heading (oneLine_ofList (by decide)), results⟩, heading (oneLine_ofList (by decide))⟩,
    report.oneLine_ending⟩

/-! ## Spans in lines -/

/-- Whether spans are the text of some lines. -/
def Spells (spans : List Span) (lines : List String) : Prop :=
  Span.bareText spans = ofLines lines

variable {spans others : List Span} {lines below : List String}

theorem Spells.append (this : Spells spans lines) (other : Spells others below) :
    Spells (spans ++ others) (lines ++ below) := by
  rw [Spells, Span.bareText, List.map_append, String.join_append, ofLines_append]
  exact congrArg₂ _ this other

theorem spells_flatMap {α : Type} {spansOf : α → List Span} {linesOf : α → List String}
    (each : ∀ item, Spells (spansOf item) (linesOf item)) (items : List α) :
    Spells (items.flatMap spansOf) (items.flatMap linesOf) := by
  induction items with
  | nil => rfl
  | cons item items ih =>
    rw [List.flatMap_cons, List.flatMap_cons]
    exact (each item).append ih

theorem spells_headSpans (result : CheckResult) : Spells (headSpans result) [result.headLine] := by
  unfold Spells headSpans CheckResult.headLine
  apply String.toList_inj.1
  cases result.passed <;> simp [Span.bareText, Span.styled, Span.plain, ofLines]

theorem spells_findingSpans (finding : Finding) :
    Spells (findingSpans finding) [bullet ++ finding.describe] := by
  unfold Spells findingSpans
  apply String.toList_inj.1
  simp [Span.bareText, Span.styled, Span.plain, ofLines, bullet]

theorem spells_metricsSpans (metrics : Metrics) :
    Spells (metricsSpans metrics) (metrics.items.map (bullet ++ ·)) := by
  unfold Spells metricsSpans
  apply String.toList_inj.1
  simp [Span.bareText, Span.plain, ofLines, bullet, Metrics.items]

theorem spells_resultSpans (result : CheckResult) : Spells (resultSpans result) result.lines := by
  have findings : Spells (result.findings.flatMap findingSpans)
      ((result.findings.map Finding.describe).map (bullet ++ ·)) := by
    rw [List.map_map, List.map_eq_flatMap]
    exact spells_flatMap spells_findingSpans result.findings
  unfold resultSpans CheckResult.lines CheckResult.items
  rw [List.map_append, ← List.cons_append]
  apply Spells.append
  · exact (spells_headSpans result).append findings
  · cases result.metrics with
    | none => rfl
    | some metrics => exact spells_metricsSpans metrics

theorem spells_styled (style : Terminal.Style) (line : String) :
    Spells [.styled style line, .plain "\n"] [line] := by
  simp [Spells, Span.bareText, Span.styled, Span.plain, ofLines]

theorem spells_nextSteps :
    Spells (.plain "\nNext steps:\n" :: stepSpans 1 nextSteps)
      ["", "Next steps:",
        "  1. Install the Flutter SDK",
        "  2. Run 'flutter pub get' to fetch dependencies",
        "  3. Run 'flutter run' to launch the app",
        "  4. Run 'flutter test' to run the test suite"] := by
  unfold Spells
  decide +kernel

/-- The line of the verdict is the tally and what goes on behind it. -/
theorem tally_append (report : Report) (after : String) :
    report.tally ++ after =
      toString report.passedCount ++ "/" ++ toString report.total ++
        (" checks passed" ++ after) := by
  rw [tally, String.append_assoc]

theorem spells_ending (report : Report) :
    Spells (report.verdictSpans ++ [.plain "\n", .styled .dimmed installTip, .plain "\n"])
      report.ending := by
  have blank : Spells [.plain "\n"] [""] := by
    unfold Spells
    decide
  have tip := blank.append (spells_styled .dimmed installTip)
  unfold verdictSpans ending
  split
  · next all =>
    have count : report.passedCount = report.total := by simpa [allPassed] using all
    have verdict := (spells_styled .green (report.tally ++ ".")).append spells_nextSteps
    rw [tally_append, count] at verdict
    rw [tally_append, count]
    exact verdict.append tip
  · have verdict := spells_styled .yellow
      (report.tally ++ ". Fix the problems listed above and run again.")
    rw [tally_append] at verdict
    rw [tally_append]
    exact verdict.append tip

theorem spells_spans (report : Report) : Spells report.spans report.lines := by
  have title : Spells [.styled .bold "\n=== Project Preflight ===\n", .plain "\n"]
      ["", "=== Project Preflight ===", ""] := by
    unfold Spells
    decide
  have summary : Spells [.styled .bold "\n--- Summary ---\n", .plain "\n"]
      ["", "--- Summary ---", ""] := by
    unfold Spells
    decide
  have results := spells_flatMap spells_resultSpans report.results
  have whole := ((title.append results).append summary).append (spells_ending report)
  rw [← List.append_assoc] at whole
  exact whole

/-- The plain text of a report is its lines, one below the other. -/
theorem render_text (report : Report) : report.render .text false = ofLines report.lines := by
  have pieces : report.spans.flatMap (·.pieces false) = report.spans.map (·.text) := by
    simp only [Span.pieces_false, List.map_eq_flatMap]
  calc report.render .text false
      = String.join (report.spans.flatMap (·.pieces false)) := rfl
    _ = Span.bareText report.spans := by rw [pieces, Span.bareText]
    _ = ofLines report.lines := spells_spans report

end Report

end Preflight
