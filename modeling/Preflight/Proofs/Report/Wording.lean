import Mathlib.Tactic.SplitIfs
import Preflight.Report.Text
import Preflight.Text.Digit

/-!
The words that a report adds to the texts it is made of.

Findings are described in a few fixed words, and a status in fewer still. A character that is in
none of them stands in a description only if a text of the finding brings it.
-/

namespace Preflight

/-- The texts that a finding is made of. -/
def Finding.strings : Finding → List String
  | missingFile path => [path]
  | malformedImport file target => [file, target]
  | fileRead path _ message => [path, message]
  | manifestRead path _ message => [path, message]
  | missingDependency name => [name]

/-- The description of a finding adds no control character. -/
theorem Finding.notMem_describe {finding : Finding} {c : Char} (control : c < ' ')
    (absent : ∀ text ∈ finding.strings, c ∉ text.toList) : c ∉ finding.describe.toList := by
  have words {text : String} (printed : text.toList.all (' ' ≤ ·) = true) : c ∉ text.toList := by
    intro listed
    have least := List.all_eq_true.1 printed c listed
    exact Char.not_lt.2 (of_decide_eq_true least) control
  unfold describe
  cases finding <;>
    simp only [strings, List.forall_mem_cons] at absent <;>
    simp only [String.toList_append, List.mem_append, not_or]
  case missingFile path => exact ⟨words (by decide), absent.1⟩
  case malformedImport file target =>
    exact ⟨⟨⟨absent.1, words (by decide)⟩, absent.2.1⟩, words (by decide)⟩
  case fileRead path kind message => exact ⟨words (by decide), absent.2.1⟩
  case manifestRead path kind message => exact ⟨words (by decide), absent.2.1⟩
  case missingDependency name => exact ⟨words (by decide), absent.1⟩

/-- A status is made of a number and a few words. -/
theorem Report.notMem_status {c : Char} (noDigit : c.isDigit = false)
    (noWord : c ∉ "clean passed with note(s) problem(s)".toList) (result : CheckResult) :
    c ∉ (status result).toList := by
  have words {part : String}
      (among : part.toList ⊆ "clean passed with note(s) problem(s)".toList) : c ∉ part.toList :=
    fun listed => noWord (among listed)
  unfold status
  split_ifs
  · exact words (by decide)
  · simp only [String.toList_append, List.mem_append, not_or]
    exact ⟨⟨words (by decide), Text.notMem_toString noDigit _⟩, words (by decide)⟩
  · simp only [String.toList_append, List.mem_append, not_or]
    exact ⟨Text.notMem_toString noDigit _, words (by decide)⟩

end Preflight
