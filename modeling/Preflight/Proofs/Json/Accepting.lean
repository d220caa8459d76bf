import Preflight.Proofs.Json.Reading
import Preflight.Proofs.Result

/-!
The readers take nothing but spellings: what a reader has taken, when it does not give up, spells a
value that its result stands for.

The readers of tokens come first. For each there is one lemma that says what stood in front of the
characters it left unread.
-/

namespace Preflight.Json

/-! ## Gaps and words -/

theorem IsGap.append {front back : List Char} (hfront : IsGap front) (hback : IsGap back) :
    IsGap (front ++ back) := by
  intro c hc
  rcases List.mem_append.1 hc with hc | hc
  · exact hfront c hc
  · exact hback c hc

/-- What has been skipped is a gap. -/
theorem exists_gap (chars : List Char) : ∃ gap, IsGap gap ∧ chars = gap ++ skipGap chars := by
  refine ⟨chars.takeWhile isGap, ?_, List.takeWhile_append_dropWhile.symm⟩
  intro c hc
  exact isGap_iff.1 (List.all_eq_true.1 List.all_takeWhile c hc)

theorem eq_append_of_readWord {word chars rest : List Char}
    (read : readWord word chars = .ok rest) : chars = word ++ rest := by
  induction word generalizing chars with
  | nil =>
    cases read
    rfl
  | cons letter letters ih =>
    cases chars with
    | nil => cases read
    | cons c others =>
      rw [readWord] at read
      split at read
      · next same =>
        rw [same, ih read]
        rfl
      · cases read

/-! ## Characters -/

/-- A character that has a value as a hexadecimal digit is the digit of that value. -/
theorem isHexDigit_of_hexValue? {digit : Char} {n : Nat} (valued : Text.hexValue? digit = some n) :
    n < 16 ∧ IsHexDigit n digit := by
  have zero : '0'.toNat = 48 := rfl
  have nine : '9'.toNat = 57 := rfl
  have lowerA : 'a'.toNat = 97 := rfl
  have lowerF : 'f'.toNat = 102 := rfl
  have upperA : 'A'.toNat = 65 := rfl
  have upperF : 'F'.toNat = 70 := rfl
  rw [Text.hexValue?] at valued
  split at valued
  · next range =>
    have low : '0'.toNat ≤ digit.toNat := range.1
    have high : digit.toNat ≤ '9'.toNat := range.2
    injection valued with valued
    rw [Text.digitValue] at valued
    refine ⟨by omega, .inl ?_⟩
    rw [lowerHexDigit, if_pos (by omega)]
    convert (Char.ofNat_toNat digit).symm using 2
    omega
  · split at valued
    · next range =>
      have low : 'a'.toNat ≤ digit.toNat := range.1
      have high : digit.toNat ≤ 'f'.toNat := range.2
      injection valued with valued
      refine ⟨by omega, .inl ?_⟩
      rw [lowerHexDigit, if_neg (by omega)]
      convert (Char.ofNat_toNat digit).symm using 2
      omega
    · split at valued
      · next range =>
        have low : 'A'.toNat ≤ digit.toNat := range.1
        have high : digit.toNat ≤ 'F'.toNat := range.2
        injection valued with valued
        refine ⟨by omega, .inr ?_⟩
        rw [upperHexDigit, if_neg (by omega)]
        convert (Char.ofNat_toNat digit).symm using 2
        omega
      · cases valued

/-- Four digits have been read as the code unit they stand for. -/
theorem exists_digits_of_readQuad {chars rest : List Char} {unit : Nat}
    (read : readQuad chars = .ok (unit, rest)) :
    ∃ a b c d, chars = a :: b :: c :: d :: rest ∧ unit < 0x10000 ∧
      IsHexDigit (unit / 0x1000) a ∧ IsHexDigit (unit / 0x100 % 0x10) b ∧
      IsHexDigit (unit / 0x10 % 0x10) c ∧ IsHexDigit (unit % 0x10) d := by
  rw [readQuad.eq_def] at read
  split at read
  · next a b c d others =>
    split at read
    · next value quad =>
      cases read
      rw [hexQuad?] at quad
      obtain ⟨m, hm, quad⟩ := Option.bind_eq_some_iff.1 quad
      obtain ⟨n, hn, quad⟩ := Option.bind_eq_some_iff.1 quad
      obtain ⟨k, hk, quad⟩ := Option.bind_eq_some_iff.1 quad
      obtain ⟨l, hl, quad⟩ := Option.bind_eq_some_iff.1 quad
      have value : ((m * 16 + n) * 16 + k) * 16 + l = unit := Option.some.inj quad
      obtain ⟨ltm, ha⟩ := isHexDigit_of_hexValue? hm
      obtain ⟨ltn, hb⟩ := isHexDigit_of_hexValue? hn
      obtain ⟨ltk, hc⟩ := isHexDigit_of_hexValue? hk
      obtain ⟨ltl, hd⟩ := isHexDigit_of_hexValue? hl
      have first : unit / 0x1000 = m := by omega
      have second : unit / 0x100 % 0x10 = n := by omega
      have third : unit / 0x10 % 0x10 = k := by omega
      have fourth : unit % 0x10 = l := by omega
      refine ⟨a, b, c, d, rfl, by omega, ?_, ?_, ?_, ?_⟩
      · rwa [first]
      · rwa [second]
      · rwa [third]
      · rwa [fourth]
    · cases read
  · split at read <;> cases read

/-- What has been read behind the first half of a surrogate pair is an escape of the second. -/
theorem exists_digits_of_readLowSurrogate {chars rest : List Char} {low : Nat}
    (read : readLowSurrogate chars = .ok (low, rest)) :
    ∃ others, chars = '\\' :: 'u' :: others ∧ readQuad others = .ok (low, rest) ∧
      isLowSurrogate low = true := by
  rw [readLowSurrogate.eq_def] at read
  split at read
  · next others =>
    obtain ⟨⟨unit, after⟩, quad, read⟩ := exists_of_bind_eq_ok read
    dsimp only at read
    split at read
    · next isLow =>
      cases read
      exact ⟨others, rfl, quad, isLow⟩
    · cases read
  all_goals cases read

/-- The number of a character that is given by a code unit is that unit, unless it is half a
pair. -/
theorem toNat_ofNat_of_unit {unit : Nat} (small : unit < 0x10000)
    (notLow : isLowSurrogate unit = false) (notHigh : isHighSurrogate unit = false) :
    (Char.ofNat unit).toNat = unit := by
  simp only [isLowSurrogate, isHighSurrogate, Bool.and_eq_false_iff, decide_eq_false_iff_not]
    at notLow notHigh
  have valid : unit.isValidChar := by
    rw [Nat.isValidChar]
    omega
  rw [Char.ofNat, dif_pos valid]
  rfl

/-- Two halves are the code units of the character that they make. -/
theorem codeUnits_pairedChar {high low : Nat} (isHigh : isHighSurrogate high = true)
    (isLow : isLowSurrogate low = true) : codeUnits (pairedChar high low) = [high, low] := by
  simp only [isLowSurrogate, isHighSurrogate, Bool.and_eq_true, decide_eq_true_eq] at isHigh isLow
  have valid : (0x10000 + (high - 0xD800) * 0x400 + (low - 0xDC00)).isValidChar := by
    rw [Nat.isValidChar]
    omega
  have number : (pairedChar high low).toNat =
      0x10000 + (high - 0xD800) * 0x400 + (low - 0xDC00) := by
    rw [pairedChar, Char.ofNat, dif_pos valid]
    rfl
  rw [codeUnits, number, if_neg (by omega)]
  have first : 0xD800 + (0x10000 + (high - 0xD800) * 0x400 + (low - 0xDC00) - 0x10000) / 0x400 =
      high := by omega
  have second : 0xDC00 + (0x10000 + (high - 0xD800) * 0x400 + (low - 0xDC00) - 0x10000) % 0x400 =
      low := by omega
  rw [first, second]

/-- A character that has been read by its numbers was written by its code units. -/
theorem exists_units_of_readCodeUnit {chars rest : List Char} {c : Char}
    (read : readCodeUnit chars = .ok (c, rest)) :
    ∃ text, UnitsSpelling (codeUnits c) ('\\' :: 'u' :: text) ∧ chars = text ++ rest := by
  rw [readCodeUnit] at read
  obtain ⟨⟨unit, after⟩, quad, ended⟩ := exists_of_bind_eq_ok read
  obtain ⟨h₁, h₂, h₃, h₄, rfl, small, d₁, d₂, d₃, d₄⟩ := exists_digits_of_readQuad quad
  dsimp only at ended
  split at ended
  · cases ended
  · next notLow =>
    split at ended
    · next isHigh =>
      obtain ⟨⟨low, behind⟩, lower, paired⟩ := exists_of_bind_eq_ok ended
      obtain ⟨rfl, rfl⟩ := Prod.mk.inj (Except.ok.inj paired)
      obtain ⟨others, rfl, quad, isLow⟩ := exists_digits_of_readLowSurrogate lower
      obtain ⟨l₁, l₂, l₃, l₄, rfl, -, e₁, e₂, e₃, e₄⟩ := exists_digits_of_readQuad quad
      refine ⟨[h₁, h₂, h₃, h₄, '\\', 'u', l₁, l₂, l₃, l₄], ?_, rfl⟩
      rw [codeUnits_pairedChar isHigh isLow]
      exact .cons d₁ d₂ d₃ d₄ (.cons e₁ e₂ e₃ e₄ .nil)
    · next notHigh =>
      cases ended
      refine ⟨[h₁, h₂, h₃, h₄], ?_, rfl⟩
      have number := toNat_ofNat_of_unit small (Bool.eq_false_iff.2 notLow)
        (Bool.eq_false_iff.2 notHigh)
      rw [codeUnits, number, if_pos small]
      exact .cons d₁ d₂ d₃ d₄ .nil

theorem mem_shortEscapes_of_shortEscape? {letter c : Char}
    (escaped : shortEscape? letter = some c) : (letter, c) ∈ shortEscapes := by
  rw [shortEscape?.eq_def] at escaped
  split at escaped
  case h_9 => cases escaped
  all_goals
    cases escaped
    decide

/-- What has been read as the end of a text is a quote. -/
theorem eq_quote_of_readUnit {chars rest : List Char} (read : readUnit chars = .ok (none, rest)) :
    chars = '"' :: rest := by
  rw [readUnit.eq_def] at read
  split at read
  · cases read
  · cases read
    rfl
  · cases read
  · obtain ⟨⟨c, after⟩, -, read⟩ := exists_of_bind_eq_ok read
    cases read
  · split at read <;> cases read
  · split at read <;> cases read

/-- What has been read as a character spells it. -/
theorem exists_spelling_of_readUnit {chars rest : List Char} {c : Char}
    (read : readUnit chars = .ok (some c, rest)) :
    ∃ this, CharSpelling c this ∧ chars = this ++ rest := by
  rw [readUnit.eq_def] at read
  split at read
  · cases read
  · cases read
  · cases read
  · obtain ⟨⟨d, after⟩, unit, read⟩ := exists_of_bind_eq_ok read
    cases read
    obtain ⟨text, spelled, rfl⟩ := exists_units_of_readCodeUnit unit
    exact ⟨_, .units spelled, rfl⟩
  · next letter others noUnit =>
    split at read
    · next escaped =>
      cases read
      exact ⟨['\\', letter], .short (mem_shortEscapes_of_shortEscape? escaped), rfl⟩
    · cases read
  · next d others notEnd notUnit notLetter notAlone =>
    split at read
    · cases read
    · next printed =>
      cases read
      refine ⟨[c], .raw (Nat.le_of_not_lt printed) ?_ ?_, rfl⟩
      · exact notEnd
      · rintro rfl
        cases rest with
        | nil => exact notUnit rfl rfl
        | cons letter after => exact notAlone _ _ rfl rfl

/-- What has been read up to the closing quote spells the characters. -/
theorem exists_spelling_of_readUnits {units : Nat} {chars cs rest : List Char}
    (read : readUnits units chars = .ok (cs, rest)) :
    ∃ body, CharsSpelling cs body ∧ chars = body ++ rest := by
  induction units generalizing chars cs with
  | zero => cases read
  | succ units ih =>
    rw [readUnits] at read
    obtain ⟨⟨unit, after⟩, first, read⟩ := exists_of_bind_eq_ok read
    cases unit with
    | none =>
      cases read
      rw [eq_quote_of_readUnit first]
      exact ⟨['"'], .close, rfl⟩
    | some c =>
      obtain ⟨⟨others, behind⟩, next, read⟩ := exists_of_bind_eq_ok read
      cases read
      obtain ⟨this, spelled, rfl⟩ := exists_spelling_of_readUnit first
      obtain ⟨body, spelledOthers, rfl⟩ := ih next
      refine ⟨this ++ body, .cons spelled spelledOthers, ?_⟩
      rw [List.append_assoc]

theorem exists_spelling_of_readTextBody {chars rest : List Char} {text : String}
    (read : readTextBody chars = .ok (text, rest)) :
    ∃ body, CharsSpelling text.toList body ∧ chars = body ++ rest := by
  rw [readTextBody] at read
  obtain ⟨⟨cs, after⟩, units, read⟩ := exists_of_bind_eq_ok read
  cases read
  rw [String.toList_ofList]
  exact exists_spelling_of_readUnits units

/-! ## Items and members -/

/-- Where the reader finds no further item, a closing bracket comes next. -/
theorem exists_close_of_nextItem {first : Bool} {chars rest : List Char}
    (moved : nextItem first chars = .ok (false, rest)) :
    ∃ gap after, IsGap gap ∧ rest = ']' :: after ∧ chars = gap ++ rest := by
  obtain ⟨gap, hgap, spelled⟩ := exists_gap chars
  rw [nextItem] at moved
  split at moved
  · cases moved
  · next closed =>
    cases moved
    exact ⟨gap, _, hgap, rfl, closed ▸ spelled⟩
  · split at moved
    · cases moved
    · split at moved
      · split at moved <;> cases moved
      · cases moved

/-- The first item comes behind a gap. -/
theorem exists_gap_of_nextItem_first {chars rest : List Char}
    (moved : nextItem true chars = .ok (true, rest)) : ∃ gap, IsGap gap ∧ chars = gap ++ rest := by
  obtain ⟨gap, hgap, spelled⟩ := exists_gap chars
  rw [nextItem] at moved
  split at moved
  · cases moved
  · cases moved
  · next opened =>
    rw [if_pos rfl] at moved
    cases moved
    exact ⟨gap, hgap, opened ▸ spelled⟩

/-- A further item comes behind a comma. -/
theorem exists_comma_of_nextItem {chars rest : List Char}
    (moved : nextItem false chars = .ok (true, rest)) :
    ∃ before gap, IsGap before ∧ IsGap gap ∧ chars = before ++ ',' :: (gap ++ rest) := by
  obtain ⟨before, hbefore, spelled⟩ := exists_gap chars
  rw [nextItem] at moved
  split at moved
  · cases moved
  · cases moved
  · next c others _ opened =>
    rw [if_neg Bool.false_ne_true] at moved
    split at moved
    · next comma =>
      obtain ⟨gap, hgap, skipped⟩ := exists_gap others
      split at moved
      · cases moved
      · cases moved
      · cases moved
        refine ⟨before, gap, hbefore, hgap, ?_⟩
        rw [← skipped, ← comma, ← opened]
        exact spelled
    · cases moved

theorem closeList_append {gap : List Char} (hgap : IsGap gap) (rest : List Char) :
    closeList (gap ++ ']' :: rest) = .ok rest := by
  rw [closeList, skipGap_append hgap, skipGap_cons rfl]
  rfl

theorem exists_gap_of_closeList {chars rest : List Char} (closed : closeList chars = .ok rest) :
    ∃ gap, IsGap gap ∧ chars = gap ++ ']' :: rest := by
  obtain ⟨gap, hgap, spelled⟩ := exists_gap chars
  rw [closeList] at closed
  split at closed
  · cases closed
  · next bracket =>
    cases closed
    exact ⟨gap, hgap, bracket ▸ spelled⟩
  · split at closed <;> cases closed
  · cases closed

/-- Where the reader finds no further member, a closing brace comes next. -/
theorem exists_close_of_nextMember {first : Bool} {chars rest : List Char}
    (moved : nextMember first chars = .ok (false, rest)) :
    ∃ gap after, IsGap gap ∧ rest = '\x7d' :: after ∧ chars = gap ++ rest := by
  obtain ⟨gap, hgap, spelled⟩ := exists_gap chars
  rw [nextMember] at moved
  split at moved
  · cases moved
  · next closed =>
    cases moved
    exact ⟨gap, _, hgap, rfl, closed ▸ spelled⟩
  · split at moved
    · split at moved <;> cases moved
    · split at moved
      · split at moved <;> cases moved
      · cases moved

/-- The key of the first member comes behind a gap. -/
theorem exists_gap_of_nextMember_first {chars rest : List Char}
    (moved : nextMember true chars = .ok (true, rest)) :
    ∃ gap, IsGap gap ∧ chars = gap ++ '"' :: rest := by
  obtain ⟨gap, hgap, spelled⟩ := exists_gap chars
  rw [nextMember] at moved
  split at moved
  · cases moved
  · cases moved
  · next opened =>
    rw [if_pos rfl] at moved
    split at moved
    · next quote =>
      cases moved
      refine ⟨gap, hgap, ?_⟩
      rw [← quote, ← opened]
      exact spelled
    · cases moved

/-- The key of a further member comes behind a comma. -/
theorem exists_comma_of_nextMember {chars rest : List Char}
    (moved : nextMember false chars = .ok (true, rest)) :
    ∃ before gap, IsGap before ∧ IsGap gap ∧ chars = before ++ ',' :: (gap ++ '"' :: rest) := by
  obtain ⟨before, hbefore, spelled⟩ := exists_gap chars
  rw [nextMember] at moved
  split at moved
  · cases moved
  · cases moved
  · next c others _ opened =>
    rw [if_neg Bool.false_ne_true] at moved
    split at moved
    · next comma =>
      obtain ⟨gap, hgap, skipped⟩ := exists_gap others
      split at moved
      · cases moved
      · next quote =>
        cases moved
        refine ⟨before, gap, hbefore, hgap, ?_⟩
        rw [← quote, ← skipped, ← comma, ← opened]
        exact spelled
      · cases moved
      · cases moved
    · cases moved

theorem exists_gap_of_readColon {chars rest : List Char} (read : readColon chars = .ok rest) :
    ∃ gap, IsGap gap ∧ chars = gap ++ ':' :: rest := by
  obtain ⟨gap, hgap, spelled⟩ := exists_gap chars
  rw [readColon] at read
  split at read
  · cases read
  · next colon =>
    cases read
    exact ⟨gap, hgap, colon ▸ spelled⟩
  · cases read

end Preflight.Json
