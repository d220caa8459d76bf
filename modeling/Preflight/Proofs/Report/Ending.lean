import Mathlib.Data.List.TFAE
import Mathlib.Tactic.TFAE
import Preflight.Proofs.Check.Conforming
import Preflight.Proofs.Report.Lines
import Preflight.Proofs.Report.Lossless

/-!
The verdict of a report in all its presentations: the results themselves, the exit code, the
document in JSON and the end of the plain text.

Names and findings may hold any text, line breaks and the words of a verdict included. All of it is
written above the summary, and the two ways in which a summary ends differ in a line of their own.
So the end of the text is never that of another verdict.
-/

namespace Preflight.Report

open Text (EndsIn)

/-! ## The two endings -/

/-- The two numbers of a tally can be told from it. -/
theorem tally_injective {passed total passed' total' : Nat}
    (same : toString passed ++ "/" ++ toString total = toString passed' ++ "/" ++ toString total') :
    passed = passed' ∧ total = total' := by
  have noSlash (number : Nat) : '/' ∉ (toString number).toList :=
    Text.notMem_toString (by decide) number
  have chars := congrArg String.toList same
  simp only [String.toList_append, List.append_assoc] at chars
  obtain ⟨front, -, back⟩ :=
    (List.append_cons_inj_of_notMem (noSlash passed) (noSlash total)).1 chars
  exact ⟨Text.toString_injective (String.toList_inj.1 front),
    Text.toString_injective (String.toList_inj.1 back)⟩

theorem passedEnding_injective {count other : Nat}
    (same : passedEnding count = passedEnding other) : count = other := by
  have first := (List.cons.inj same).1
  rw [String.append_left_inj] at first
  exact (tally_injective first).1

theorem failedEnding_injective {passed total passed' total' : Nat}
    (same : failedEnding passed total = failedEnding passed' total') :
    passed = passed' ∧ total = total' := by
  have first := (List.cons.inj same).1
  rw [String.append_left_inj] at first
  exact tally_injective first

/-- The last step of a report that has passed stands where one that has failed has its tally, and no
step holds a slash. -/
theorem failedEnding_ne_drop (passed total count : Nat) :
    failedEnding passed total ≠ (passedEnding count).drop 6 := by
  intro same
  have first : toString passed ++ "/" ++ toString total ++
        " checks passed. Fix the problems listed above and run again." =
      "  4. Run 'flutter test' to run the test suite" := (List.cons.inj same).1
  have slash : '/' ∈ (toString passed ++ "/" ++ toString total ++
      " checks passed. Fix the problems listed above and run again.").toList := by simp
  rw [first] at slash
  exact absurd slash (by decide)

/-! ## The end of the text -/

theorem endsIn_ending (report : Report) : EndsIn (report.render .text false) report.ending := by
  have parts : report.lines =
      (["", "=== Project Preflight ===", ""] ++ report.results.flatMap CheckResult.lines ++
        ["", "--- Summary ---"]) ++ "" :: report.ending := by
    simp only [lines, List.append_assoc, List.cons_append, List.nil_append]
  rw [render_text, parts]
  exact Text.endsIn_ofLines _ _ _

theorem endsIn_passedEnding_iff {report : Report} {count : Nat} :
    EndsIn (report.render .text false) (passedEnding count) ↔
      report.allPassed = true ∧ count = report.total := by
  have ends := report.endsIn_ending
  unfold ending at ends
  constructor
  · intro other
    split at ends
    · next all =>
      have same := other.eq_drop ends (oneLine_passedEnding count) (oneLine_passedEnding _)
        (Nat.le_refl _)
      exact ⟨all, passedEnding_injective same⟩
    · have same := ends.eq_drop other (oneLine_failedEnding _ _) (oneLine_passedEnding count)
        (by decide : 3 ≤ 9)
      exact absurd same (failedEnding_ne_drop _ _ count)
  · rintro ⟨all, rfl⟩
    rwa [if_pos all] at ends

theorem endsIn_failedEnding_iff {report : Report} {passed total : Nat} :
    EndsIn (report.render .text false) (failedEnding passed total) ↔
      report.allPassed = false ∧ passed = report.passedCount ∧ total = report.total := by
  have ends := report.endsIn_ending
  unfold ending at ends
  constructor
  · intro other
    split at ends
    · have same := other.eq_drop ends (oneLine_failedEnding passed total) (oneLine_passedEnding _)
        (by decide : 3 ≤ 9)
      exact absurd same (failedEnding_ne_drop passed total _)
    · next failed =>
      have same := other.eq_drop ends (oneLine_failedEnding passed total)
        (oneLine_failedEnding _ _) (Nat.le_refl _)
      exact ⟨eq_false_of_ne_true failed, failedEnding_injective same⟩
  · rintro ⟨failed, rfl, rfl⟩
    rwa [if_neg (by simp [failed])] at ends

/-! ## The verdict -/

theorem verdict_eq_passed_iff {report : Report} :
    report.verdict = .passed ↔ report.allPassed = true := by
  unfold verdict
  cases report.allPassed <;> decide

theorem verdict_eq_failed_iff {report : Report} :
    report.verdict = .failed ↔ report.allPassed = false := by
  unfold verdict
  cases report.allPassed <;> decide

theorem exitCode_eq_zero_iff {verdict : Verdict} : verdict.exitCode = 0 ↔ verdict = .passed := by
  cases verdict <;> decide

theorem passedCount_eq_total_iff {report : Report} :
    report.passedCount = report.total ↔ report.allPassed = true := by
  rw [allPassed, beq_iff_eq]

/-- A report that has not passed counts fewer checks that have than there are. -/
theorem passedCount_lt_total {report : Report} (failed : report.allPassed = false) :
    report.passedCount < report.total := by
  have most : report.passedCount ≤ report.total := List.length_filter_le _ _
  have differ : report.passedCount ≠ report.total := by
    rw [Ne, passedCount_eq_total_iff, failed]
    exact Bool.false_ne_true
  omega

/-- All presentations of a report give one verdict and one tally: its results, the verdict and the
exit code, the document in JSON, and the end of the plain text, which is that of a report that has
passed or that of one that has failed, with the tally of the report, and never both. -/
theorem presentations_agree (report : Report) (coloured : Bool) :
    [∀ result ∈ report.results, result.passed = true,
      report.verdict = .passed,
      report.verdict.exitCode = 0,
      ∃ document, Document.ofText? (report.render .json coloured) = some document ∧
        document.passed = true,
      ∃ count, EndsIn (report.render .text false) (passedEnding count)].TFAE ∧
    (report.verdict = .passed ∧ report.passedCount = report.total ∨
      report.verdict = .failed ∧ report.passedCount < report.total) ∧
    (∀ count, EndsIn (report.render .text false) (passedEnding count) ↔
      report.verdict = .passed ∧ count = report.total) ∧
    (∀ passed total, EndsIn (report.render .text false) (failedEnding passed total) ↔
      report.verdict = .failed ∧ passed = report.passedCount ∧ total = report.total) ∧
    (∃ document, Document.ofText? (report.render .json coloured) = some document ∧
      document.passedChecks = report.passedCount ∧ document.totalChecks = report.total) ∧
    report.passedCount = report.results.countP (·.passed) ∧
    report.total = report.results.length := by
  have read := report.ofText?_render_json coloured
  refine ⟨?_, ?_, fun count => ?_, fun passed total => ?_, ⟨_, read, rfl, rfl⟩,
    List.countP_eq_length_filter.symm, rfl⟩
  · tfae_have 1 ↔ 2 := allPassed_iff.symm.trans verdict_eq_passed_iff.symm
    tfae_have 2 ↔ 3 := exitCode_eq_zero_iff.symm
    tfae_have 2 ↔ 4 := by
      rw [verdict_eq_passed_iff, read]
      constructor
      · exact fun all => ⟨_, rfl, all⟩
      · rintro ⟨document, same, all⟩
        obtain rfl := Option.some.inj same
        exact all
    tfae_have 2 ↔ 5 := by
      rw [verdict_eq_passed_iff]
      simp only [endsIn_passedEnding_iff]
      exact ⟨fun all => ⟨_, all, rfl⟩, fun ⟨_, all, _⟩ => all⟩
    tfae_finish
  · rw [verdict_eq_passed_iff, verdict_eq_failed_iff, passedCount_eq_total_iff, and_self]
    cases verdict : report.allPassed with
    | true => exact .inl rfl
    | false => exact .inr ⟨rfl, passedCount_lt_total verdict⟩
  · rw [endsIn_passedEnding_iff, verdict_eq_passed_iff]
  · rw [endsIn_failedEnding_iff, verdict_eq_failed_iff]

end Preflight.Report
