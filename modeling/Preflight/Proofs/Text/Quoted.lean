import Preflight.Text.Quoted

/-!
Which characters quoted text is made of: none that leaves no mark of its own on paper, whatever it
quotes. So a quoted text stays on its line and opens no control sequence.
-/

namespace Preflight.Text

/-! ## Digits and signs -/

theorem isNumbered_digitChar (number : Nat) : isNumbered number.digitChar = false := by
  have digits : ∀ value ≤ 16, isNumbered value.digitChar = false := by decide +kernel
  rcases Nat.le_total number 16 with small | large
  · exact digits number small
  · rw [Nat.digitChar_eq_star.2 large]
    exact digits 16 (Nat.le_refl 16)

theorem isNumbered_of_mem_toDigits {number : Nat} {c : Char}
    (listed : c ∈ Nat.toDigits 16 number) : isNumbered c = false := by
  induction number using Nat.strongRecOn with
  | ind number ih =>
    rw [Nat.toDigits_eq_if (by decide)] at listed
    split at listed
    · rw [List.mem_singleton.1 listed]
      exact isNumbered_digitChar number
    · rcases List.mem_append.1 listed with front | last
      · exact ih (number / 16) (by omega) front
      · rw [List.mem_singleton.1 last]
        exact isNumbered_digitChar (number % 16)

/-- The signs that quoted text adds to digits and to what it quotes. -/
def quotingSigns : List Char := ['"', '\\', '0', 't', 'r', 'n', 'u', '\x7b', '\x7d']

theorem isNumbered_of_mem_quotingSigns {c : Char} (listed : c ∈ quotingSigns) :
    isNumbered c = false := by
  have marked : (quotingSigns.all fun d => !isNumbered d) = true := by decide +kernel
  simpa using List.all_eq_true.1 marked c listed

/-! ## Characters of quoted text -/

/-- A character is escaped with signs, written by number, or has a mark of its own and stays. -/
theorem mem_quotedChar {c d : Char} (listed : d ∈ quotedChar c) :
    d ∈ quotingSigns ∨ d ∈ Nat.toDigits 16 c.toNat ∨ d = c ∧ isNumbered c = false := by
  unfold quotedChar at listed
  split at listed
  case h_7 =>
    split at listed
    · simp only [List.mem_append, List.mem_cons, List.not_mem_nil, or_false] at listed
      rcases listed with ((rfl | rfl | rfl) | digit) | rfl
      · exact .inl (by decide)
      · exact .inl (by decide)
      · exact .inl (by decide)
      · exact .inr (.inl digit)
      · exact .inl (by decide)
    · next marked =>
      exact .inr (.inr ⟨List.mem_singleton.1 listed, Bool.eq_false_iff.2 marked⟩)
  all_goals
    rw [List.mem_cons, List.mem_singleton] at listed
    rcases listed with rfl | rfl <;> exact .inl (by decide)

/-- Every character of a quoted text has a mark of its own. -/
theorem isNumbered_of_mem_quoted {text : String} {c : Char} (listed : c ∈ (quoted text).toList) :
    isNumbered c = false := by
  rw [quoted, String.toList_ofList, List.mem_append, List.mem_cons, List.mem_flatMap,
    List.mem_singleton] at listed
  rcases listed with (rfl | ⟨d, -, inside⟩) | rfl
  · exact isNumbered_of_mem_quotingSigns (by decide)
  · rcases mem_quotedChar inside with sign | digit | ⟨rfl, marked⟩
    · exact isNumbered_of_mem_quotingSigns sign
    · exact isNumbered_of_mem_toDigits digit
    · exact marked
  · exact isNumbered_of_mem_quotingSigns (by decide)

end Preflight.Text
