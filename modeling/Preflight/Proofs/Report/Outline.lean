import Mathlib.Data.List.Forall2
import Preflight.Import.Directive
import Preflight.Proofs.Report.Colour
import Preflight.Proofs.Report.Lines
import Preflight.Text.Digit

/-!
What the plain text of a report tells of its results can be read off it again.

The text quotes nothing: a name may look like a status, and a finding like a line of statistics. Two
things make up for that. The status of a check has no colon, so it stands behind the last one of its
line; and it says how many findings there are, so the first items below the line are these, and all
that are left are statistics. The lines are read from the last to the first, and items wait for the
line that they stand below.
-/

namespace Preflight

open Import (dropWord? dropWord?_eq_some_iff)
open Text (OneLine linesOf oneLine_append oneLine_ofList oneLine_toString)

/-- What the text of a report tells of the result of a check. -/
structure Outline where
  name : String
  passed : Bool
  descriptions : List String
  metrics : Option Metrics
  deriving DecidableEq, Repr

def CheckResult.outline (result : CheckResult) : Outline :=
  ⟨result.name, result.passed, result.findings.map Finding.describe, result.metrics⟩

namespace Outline

/-! ## Reading -/

/-- The number that stands in front of some words, which do not begin with a digit. -/
def numberBefore? (words text : List Char) : Option Nat :=
  if text.dropWhile Char.isDigit = words then Text.wholeNumber? (text.takeWhile Char.isDigit)
  else none

/-- The parts of a text in front of the last of some characters and behind it. -/
def cutAtLast? (c : Char) : List Char → Option (List Char × List Char)
  | [] => none
  | d :: rest =>
      match cutAtLast? c rest with
      | some (front, back) => some (d :: front, back)
      | none => if d = c then some ([], rest) else none

/-- Whether a check has passed that is marked by a character. -/
def passed? (mark : Char) : Option Bool :=
  if mark = '✓' then some true else if mark = '✗' then some false else none

/-- The number of findings that a status speaks of. -/
def count? (passed : Bool) (status : List Char) : Option Nat :=
  if passed then
    if status = "clean".toList then some 0
    else (dropWord? "passed with ".toList status).bind (numberBefore? " note(s)".toList)
  else numberBefore? " problem(s)".toList status

/-- The number behind a label. -/
def labelled? (label : String) (item : List Char) : Option Nat :=
  (dropWord? label.toList item).bind (numberBefore? [])

/-- The statistics in the items behind the findings: there are none, or three numbers. -/
def metrics? : List (List Char) → Option (Option Metrics)
  | [] => some none
  | [files, lines, average] => do
      let totalFiles ← labelled? "Total files: " files
      let totalLines ← labelled? "Total lines: " lines
      let averageLines ← labelled? "Average lines per file: " average
      return some ⟨totalFiles, totalLines, averageLines⟩
  | _ => none

/-- What a line and the items below it tell of a check, if the line is about one. -/
def ofItems? : List Char → List (List Char) → Option Outline
  | mark :: ' ' :: rest, items => do
      let passed ← passed? mark
      let (name, status) ← cutAtLast? ':' rest
      let count ← count? passed (status.drop 1)
      let metrics ← metrics? (items.drop count)
      return ⟨String.ofList name, passed, (items.take count).map String.ofList, metrics⟩
  | _, _ => none

/-- The items at the head of some lines, and what the lines behind them tell of checks. -/
def readLines : List (List Char) → List (List Char) × List Outline
  | [] => ([], [])
  | line :: lines =>
      let (items, outlines) := readLines lines
      match dropWord? Report.bullet.toList line with
      | some item => (item :: items, outlines)
      | none => ([], (ofItems? line items).toList ++ outlines)

/-- The outlines of the checks that the text of a report tells of. -/
def ofText (text : String) : List Outline := (readLines (linesOf text)).2

/-! ## Numbers, names and statuses -/

theorem numberBefore?_toString (number : Nat) (words : List Char)
    (stop : words.takeWhile Char.isDigit = []) :
    numberBefore? words ((toString number).toList ++ words) = some number := by
  have digits : ∀ c ∈ Nat.toDigits 10 number, c.isDigit = true := fun c listed =>
    Nat.isDigit_of_mem_toDigits (by decide) (by decide) listed
  have rest : words.dropWhile Char.isDigit = words := by
    have whole := List.takeWhile_append_dropWhile (p := Char.isDigit) (l := words)
    rwa [stop, List.nil_append] at whole
  rw [Nat.toString_eq_ofList_toDigits, String.toList_ofList, numberBefore?,
    List.takeWhile_append_of_pos digits, List.dropWhile_append_of_pos digits, stop, rest,
    if_pos rfl, List.append_nil, Text.wholeNumber?_toDigits]

theorem cutAtLast?_eq_none {c : Char} {text : List Char} (absent : c ∉ text) :
    cutAtLast? c text = none := by
  induction text with
  | nil => rfl
  | cons d text ih =>
    rw [List.mem_cons, not_or] at absent
    obtain ⟨ne, others⟩ := absent
    rw [cutAtLast?, ih others]
    exact if_neg (Ne.symm ne)

theorem cutAtLast?_append {c : Char} {back : List Char} (absent : c ∉ back) (front : List Char) :
    cutAtLast? c (front ++ c :: back) = some (front, back) := by
  induction front with
  | nil =>
    rw [List.nil_append, cutAtLast?, cutAtLast?_eq_none absent]
    exact if_pos rfl
  | cons d front ih => rw [List.cons_append, cutAtLast?, ih]

/-- The status of a check says how many findings it has. -/
theorem count?_status (result : CheckResult) :
    count? result.passed (Report.status result).toList = some result.findings.length := by
  unfold count? Report.status
  cases result.passed with
  | false =>
    rw [if_neg Bool.false_ne_true, if_neg Bool.false_ne_true, String.toList_append]
    exact numberBefore?_toString _ _ (by decide)
  | true =>
    rw [if_pos rfl, if_pos rfl]
    cases findings : result.findings with
    | nil => rfl
    | cons finding others =>
      have parts (number : Nat) : ("passed with " ++ toString number ++ " note(s)").toList =
          "passed with ".toList ++ ((toString number).toList ++ " note(s)".toList) := by
        rw [String.toList_append, String.toList_append, List.append_assoc]
      have differ (rest : List Char) : "passed with ".toList ++ rest ≠ "clean".toList := by
        intro same
        exact absurd (List.cons.inj same).1 (by decide)
      rw [List.isEmpty_cons, if_neg Bool.false_ne_true, parts, if_neg (differ _),
        dropWord?_eq_some_iff.2 rfl, Option.bind_some]
      exact numberBefore?_toString _ _ (by decide)

theorem labelled?_append (label : String) (number : Nat) :
    labelled? label (label ++ toString number).toList = some number := by
  have found := numberBefore?_toString number [] rfl
  rw [List.append_nil] at found
  rw [labelled?, String.toList_append, dropWord?_eq_some_iff.2 rfl, Option.bind_some, found]

theorem metrics?_items (metrics : Option Metrics) :
    metrics? ((metrics.elim [] Metrics.items).map String.toList) = some metrics := by
  cases metrics with
  | none => rfl
  | some metrics =>
    simp only [Option.elim_some, Metrics.items, List.map_cons, List.map_nil, metrics?,
      labelled?_append]
    rfl

/-! ## Lines -/

theorem toList_headLine (result : CheckResult) :
    result.headLine.toList =
      (if result.passed then '✓' else '✗') :: ' ' ::
        (result.name.toList ++ ':' :: ' ' :: (Report.status result).toList) := by
  unfold CheckResult.headLine
  cases result.passed <;> simp

/-- The line of a check and its items are read as the check. -/
theorem ofItems?_headLine (result : CheckResult) :
    ofItems? result.headLine.toList (result.items.map String.toList) = some result.outline := by
  have named : cutAtLast? ':' (result.name.toList ++ ':' :: ' ' :: (Report.status result).toList) =
      some (result.name.toList, ' ' :: (Report.status result).toList) := by
    refine cutAtLast?_append ?_ _
    rw [List.mem_cons, not_or]
    exact ⟨by decide, Report.notMem_status (by decide) (by decide) result⟩
  have findings : (result.items.map String.toList).take result.findings.length =
      (result.findings.map Finding.describe).map String.toList := by
    rw [CheckResult.items, List.map_append, List.take_left' (by simp)]
  have metrics : (result.items.map String.toList).drop result.findings.length =
      (result.metrics.elim [] Metrics.items).map String.toList := by
    rw [CheckResult.items, List.map_append, List.drop_left' (by simp)]
  have line (mark : Char) (marked : passed? mark = some result.passed) :
      ofItems? (mark :: ' ' :: (result.name.toList ++ ':' :: ' ' :: (Report.status result).toList))
        (result.items.map String.toList) = some result.outline := by
    simp only [ofItems?, marked, named, List.drop_one, List.tail_cons, count?_status, findings,
      metrics, metrics?_items, Option.bind_eq_bind, Option.bind_some]
    simp [CheckResult.outline, Function.comp_def]
  rw [toList_headLine]
  apply line
  cases result.passed <;> decide

/-- No item stands on a line that begins with anything but a blank. -/
theorem dropWord?_bullet_eq_none {c : Char} (ne : c ≠ ' ') (rest : List Char) :
    dropWord? Report.bullet.toList (c :: rest) = none := by
  have bullet : Report.bullet.toList = [' ', ' ', ' ', ' ', '-', ' '] := by decide
  rw [bullet, dropWord?, if_neg ne]

theorem readLines_cons_item {line item : List Char}
    (dropped : dropWord? Report.bullet.toList line = some item) (lines : List (List Char)) :
    readLines (line :: lines) = (item :: (readLines lines).1, (readLines lines).2) := by
  rw [readLines, dropped]

theorem readLines_cons {line : List Char} (noItem : dropWord? Report.bullet.toList line = none)
    (lines : List (List Char)) :
    readLines (line :: lines) =
      ([], (ofItems? line (readLines lines).1).toList ++ (readLines lines).2) := by
  rw [readLines, noItem]

/-- Items wait for the line that they stand below. -/
theorem readLines_items (items : List String) (rest : List (List Char)) :
    readLines ((items.map (Report.bullet ++ ·)).map String.toList ++ rest) =
      (items.map String.toList ++ (readLines rest).1, (readLines rest).2) := by
  induction items with
  | nil => rfl
  | cons item items ih =>
    have dropped : dropWord? Report.bullet.toList (Report.bullet ++ item).toList =
        some item.toList := by
      rw [dropWord?_eq_some_iff, String.toList_append]
    rw [List.map_cons, List.map_cons, List.cons_append, readLines_cons_item dropped, ih,
      List.map_cons, List.cons_append]

/-- The lines of a check are read as the check, if no items stand below them that are not its own.
-/
theorem readLines_lines (result : CheckResult) {rest : List (List Char)}
    (apart : (readLines rest).1 = []) :
    readLines (result.lines.map String.toList ++ rest) =
      ([], result.outline :: (readLines rest).2) := by
  have noItem : dropWord? Report.bullet.toList result.headLine.toList = none := by
    rw [toList_headLine]
    exact dropWord?_bullet_eq_none (by split <;> decide) _
  rw [CheckResult.lines, List.map_cons, List.cons_append, readLines_cons noItem, readLines_items,
    apart, List.append_nil, ofItems?_headLine]
  rfl

theorem readLines_results (results : List CheckResult) {rest : List (List Char)}
    (apart : (readLines rest).1 = []) :
    readLines ((results.flatMap CheckResult.lines).map String.toList ++ rest) =
      ([], results.map CheckResult.outline ++ (readLines rest).2) := by
  induction results with
  | nil => exact Prod.ext apart rfl
  | cons result results ih =>
    rw [List.flatMap_cons, List.map_append, List.append_assoc, readLines_lines result, ih]
    · rfl
    · rw [ih]

/-- A line that holds no item and has no mark of a check. -/
def Idle (line : List Char) : Prop :=
  dropWord? Report.bullet.toList line = none ∧ line.head?.bind passed? = none

instance : DecidablePred Idle := fun line =>
  inferInstanceAs (Decidable (_ = none ∧ line.head?.bind passed? = none))

theorem ofItems?_of_idle {line : List Char} (idle : Idle line) (items : List (List Char)) :
    ofItems? line items = none := by
  unfold ofItems?
  split
  · have unmarked := idle.2
    rw [List.head?_cons, Option.bind_some] at unmarked
    rw [unmarked]
    rfl
  · rfl

/-- Lines that tell of nothing are passed over. -/
theorem readLines_idle {lines rest : List (List Char)} (idle : ∀ line ∈ lines, Idle line)
    (apart : (readLines rest).1 = []) :
    readLines (lines ++ rest) = ([], (readLines rest).2) := by
  induction lines with
  | nil => exact Prod.ext apart rfl
  | cons line lines ih =>
    obtain ⟨here, others⟩ := List.forall_mem_cons.1 idle
    rw [List.cons_append, readLines_cons here.1, ofItems?_of_idle here, ih others]
    rfl

/-- The line of a verdict begins with a digit. -/
theorem idle_toString_append (number : Nat) (after : String) :
    Idle (toString number ++ after).toList := by
  have nonempty : (toString number).toList ≠ [] := by
    rw [Nat.toString_eq_ofList_toDigits, String.toList_ofList]
    exact Nat.toDigits_ne_nil
  obtain ⟨digit, others, digits⟩ := List.exists_cons_of_ne_nil nonempty
  have isDigit : digit.isDigit = true := by
    refine Text.isDigit_of_mem_toString (?_ : digit ∈ (toString number).toList)
    rw [digits]
    exact List.mem_cons_self
  have ne {c : Char} (noDigit : c.isDigit = false) : digit ≠ c := by
    rintro rfl
    rw [isDigit] at noDigit
    cases noDigit
  rw [String.toList_append, digits, List.cons_append]
  refine ⟨dropWord?_bullet_eq_none (ne (by decide)) _, ?_⟩
  rw [List.head?_cons, Option.bind_some, passed?, if_neg (ne (by decide)), if_neg (ne (by decide))]

/-- A summary says nothing about single checks. -/
theorem idle_ending (report : Report) : ∀ line ∈ report.ending.map String.toList, Idle line := by
  have tally (passed total : Nat) (after : String) :
      Idle (toString passed ++ "/" ++ toString total ++ after).toList := by
    rw [String.append_assoc, String.append_assoc]
    exact idle_toString_append passed _
  unfold Report.ending
  split
  · exact List.forall_mem_cons.2 ⟨tally _ _ _, by decide⟩
  · exact List.forall_mem_cons.2 ⟨tally _ _ _, by decide⟩

/-- The lines of a report are read as its results. -/
theorem readLines_report (report : Report) :
    (readLines (report.lines.map String.toList ++ [[]])).2 =
      report.results.map CheckResult.outline := by
  have title : ∀ line ∈ ["", "=== Project Preflight ===", ""].map String.toList, Idle line := by
    decide
  have summary : ∀ line ∈ ["", "--- Summary ---", ""].map String.toList, Idle line := by decide
  have last : readLines [[]] = ([], []) := by decide
  have ending := readLines_idle (idle_ending report) (congrArg Prod.fst last)
  have summarised := readLines_idle summary (congrArg Prod.fst ending)
  have told := readLines_results report.results (congrArg Prod.fst summarised)
  have whole := readLines_idle title (congrArg Prod.fst told)
  rw [told, summarised, ending, last, List.append_nil] at whole
  rw [Report.lines]
  simp only [List.map_append, List.append_assoc]
  exact congrArg Prod.snd whole

end Outline

namespace Report

/-- The plain text of a report drops and invents nothing: as long as no name and no finding holds a
line break, the outlines of its results are read off it again. So reports with the same text tell
the same of their results, one by one. -/
theorem outlines_of_text :
    (∀ report : Report, report.IsOneLined →
      Outline.ofText (report.render .text false) = report.results.map CheckResult.outline) ∧
    ∀ report other : Report, report.IsOneLined → other.IsOneLined →
      report.render .text false = other.render .text false →
      List.Forall₂ (fun result result' : CheckResult =>
          result.name = result'.name ∧ result.passed = result'.passed ∧
            result.findings.map Finding.describe = result'.findings.map Finding.describe ∧
            result.metrics = result'.metrics)
        report.results other.results := by
  have read (report : Report) (single : report.IsOneLined) :
      Outline.ofText (report.render .text false) = report.results.map CheckResult.outline := by
    rw [Outline.ofText, render_text, Text.linesOf_ofLines (oneLine_lines single)]
    exact Outline.readLines_report report
  refine ⟨read, fun report other single single' same => ?_⟩
  have outlines : report.results.map CheckResult.outline =
      other.results.map CheckResult.outline := by
    rw [← read report single, ← read other single', same]
  rw [← List.forall₂_eq_eq_eq, List.forall₂_map_left_iff, List.forall₂_map_right_iff] at outlines
  refine outlines.imp fun result result' agree => ?_
  exact ⟨congrArg Outline.name agree, congrArg Outline.passed agree,
    congrArg Outline.descriptions agree, congrArg Outline.metrics agree⟩

/-- Names look like a status here, and findings like lines of other checks. What cannot be read is
not named in the text, so two reports share one, and what is read off it they share as well. -/
theorem outlines_of_text_disguised :
    let report (path : String) : Report := ⟨[
      ⟨"a: clean", true,
        [.fileRead path .io "✗ b: 1 problem(s)", .malformedImport "    - " "1"],
        some ⟨3, 8, 2⟩⟩,
      ⟨"", false, [], none⟩]⟩
    let outline : CheckResult → CheckResult → Prop := fun result result' =>
      result.name = result'.name ∧ result.passed = result'.passed ∧
        result.findings.map Finding.describe = result'.findings.map Finding.describe ∧
        result.metrics = result'.metrics
    Outline.ofText ((report "x").render .text false) =
        [⟨"a: clean", true,
          ["read error: ✗ b: 1 problem(s)",
            "    - : import '1' must be relative (start with '.') or use an exempt prefix"],
          some ⟨3, 8, 2⟩⟩,
        ⟨"", false, [], none⟩] ∧
      report "x" ≠ report "y" ∧
      (report "x").render .text false = (report "y").render .text false ∧
      List.Forall₂ outline (report "x").results (report "y").results := by
  intro report outline
  have single : (report "x").IsOneLined ∧ (report "y").IsOneLined := by decide
  have same : (report "x").render .text false = (report "y").render .text false := rfl
  refine ⟨outlines_of_text.1 _ single.1, by decide, same, ?_⟩
  exact outlines_of_text.2 _ _ single.1 single.2 same

end Report

end Preflight
