/-!
Digits of ASCII and what they are worth.
-/

namespace Preflight.Text

def digitValue (c : Char) : Nat := c.toNat - '0'.toNat

/-- The value of a hexadecimal digit of either case. -/
def hexValue? (c : Char) : Option Nat :=
  if '0' ≤ c ∧ c ≤ '9' then some (digitValue c)
  else if 'a' ≤ c ∧ c ≤ 'f' then some (c.toNat - 'a'.toNat + 10)
  else if 'A' ≤ c ∧ c ≤ 'F' then some (c.toNat - 'A'.toNat + 10)
  else none

/-- The number that decimal digits stand for, if they are digits and there are any. -/
def wholeNumber? (digits : List Char) : Option Nat :=
  if digits.isEmpty || !digits.all Char.isDigit then none
  else some (digits.foldl (fun value c => value * 10 + digitValue c) 0)

theorem foldl_digitValue (digits : List Char) (value : Nat) :
    digits.foldl (fun value c => value * 10 + digitValue c) value =
      Nat.ofDigitChars 10 digits value := by
  rw [Nat.ofDigitChars_eq_foldl]
  congr 1
  funext value c
  rw [Nat.mul_comm]
  rfl

/-- The digits that a number is written with stand for the number. -/
theorem wholeNumber?_toDigits (n : Nat) : wholeNumber? (Nat.toDigits 10 n) = some n := by
  have some_digit : (Nat.toDigits 10 n).isEmpty = false :=
    List.isEmpty_eq_false_iff.2 Nat.toDigits_ne_nil
  have all_digits : (Nat.toDigits 10 n).all Char.isDigit = true :=
    List.all_eq_true.2 fun c listed =>
      Nat.isDigit_of_mem_toDigits (by decide) (by decide) listed
  simp [wholeNumber?, some_digit, all_digits, foldl_digitValue, Nat.ofDigitChars_ten_toDigits]

theorem isDigit_of_mem_toString {number : Nat} {c : Char} (listed : c ∈ (toString number).toList) :
    c.isDigit = true :=
  Nat.isDigit_of_mem_toDigits (by decide) (by decide)
    (show c ∈ Nat.toDigits 10 number by simpa using listed)

theorem notMem_toString {c : Char} (noDigit : c.isDigit = false) (number : Nat) :
    c ∉ (toString number).toList := by
  intro listed
  rw [isDigit_of_mem_toString listed] at noDigit
  cases noDigit

theorem toString_injective {number other : Nat} (same : toString number = toString other) :
    number = other := by
  have digits : Nat.toDigits 10 number = Nat.toDigits 10 other := by
    simpa using congrArg String.toList same
  calc number = Nat.ofDigitChars 10 (Nat.toDigits 10 number) 0 := Nat.ofDigitChars_ten_toDigits.symm
    _ = Nat.ofDigitChars 10 (Nat.toDigits 10 other) 0 := by rw [digits]
    _ = other := Nat.ofDigitChars_ten_toDigits

end Preflight.Text
