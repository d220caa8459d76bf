import Mathlib.Tactic.Common
import Preflight.Text.Utf8

/-!
Decoding is the inverse of encoding: the bytes that decode to a text are those that encode it, and
no others.

The scan is cut at whole characters. `char?` and the encoding of one character are inverse to each
other, and every proper beginning of a character is partial, so a scan that begins a character also
ends it.
-/

namespace Preflight.Text.Utf8

/-! ## Classes of bytes as ranges of numbers -/

theorem isContinuation_iff {b : UInt8} :
    isContinuation b = true ↔ 0x80 ≤ b.toNat ∧ b.toNat ≤ 0xBF := by
  simp [isContinuation, UInt8.le_iff_toNat_le]

theorem isLeadOfTwo_iff {b : UInt8} :
    isLeadOfTwo b = true ↔ 0xC2 ≤ b.toNat ∧ b.toNat ≤ 0xDF := by
  simp [isLeadOfTwo, UInt8.le_iff_toNat_le]

theorem isLeadOfThree_iff {b : UInt8} :
    isLeadOfThree b = true ↔ 0xE0 ≤ b.toNat ∧ b.toNat ≤ 0xEF := by
  simp [isLeadOfThree, UInt8.le_iff_toNat_le]

theorem isLeadOfFour_iff {b : UInt8} :
    isLeadOfFour b = true ↔ 0xF0 ≤ b.toNat ∧ b.toNat ≤ 0xF4 := by
  simp [isLeadOfFour, UInt8.le_iff_toNat_le]

/-- A second byte is a continuation that four leads narrow at one end. -/
theorem isSecond_iff {lead b : UInt8} :
    isSecond lead b = true ↔
      (0x80 ≤ b.toNat ∧ b.toNat ≤ 0xBF) ∧ (lead.toNat = 0xE0 → 0xA0 ≤ b.toNat) ∧
        (lead.toNat = 0xED → b.toNat ≤ 0x9F) ∧ (lead.toNat = 0xF0 → 0x90 ≤ b.toNat) ∧
        (lead.toNat = 0xF4 → b.toNat ≤ 0x8F) := by
  have same (n : UInt8) : (lead == n) = true ↔ lead.toNat = n.toNat := by
    rw [beq_iff_eq, UInt8.toNat_inj]
  have e0 := same 0xE0
  have ed := same 0xED
  have f0 := same 0xF0
  have f4 := same 0xF4
  simp only [UInt8.reduceToNat] at e0 ed f0 f4
  simp only [isSecond, e0, ed, f0, f4]
  split_ifs <;>
    simp only [Bool.and_eq_true, decide_eq_true_eq, UInt8.le_iff_toNat_le, UInt8.reduceToNat,
      isContinuation_iff] <;> omega

/-! ## One character -/

/-- The numbers that name characters leave out the surrogates. -/
theorem toNat_char (c : Char) : c.toNat < 0xD800 ∨ 0xDFFF < c.toNat ∧ c.toNat < 0x110000 :=
  c.valid

/-- A byte holds a number below 256 as it is. -/
theorem toNat_byte {n : Nat} (small : n < 256) : (UInt8.ofNat n).toNat = n := by
  rw [UInt8.toNat_ofNat']
  exact Nat.mod_eq_of_lt small

/-- The encoding of a character stands for that character. -/
theorem char?_utf8EncodeChar (c : Char) : char? (String.utf8EncodeChar c) = some c := by
  have valid := toNat_char c
  have named {n : Nat} (same : n = c.toNat) : some (Char.ofNat n) = some c := by
    rw [same, Char.ofNat_toNat]
  simp only [String.utf8EncodeChar, Char.toNat_val]
  split_ifs with one two three
  · have byte := toNat_byte (n := c.toNat) (by omega)
    have low : UInt8.ofNat c.toNat < 0x80 := by
      rw [UInt8.lt_iff_toNat_lt, byte]
      exact Nat.lt_succ_of_le one
    rw [char?, if_pos low]
    exact named byte
  · have lead := toNat_byte (n := c.toNat / 64 % 32 + 192) (by omega)
    have last := toNat_byte (n := c.toNat % 64 + 128) (by omega)
    rw [char?, if_pos]
    · refine named ?_
      rw [payload, lead, last]
      omega
    · rw [Bool.and_eq_true, isLeadOfTwo_iff, isSecond_iff, lead, last]
      omega
  · have lead := toNat_byte (n := c.toNat / 4096 % 16 + 224) (by omega)
    have second := toNat_byte (n := c.toNat / 64 % 64 + 128) (by omega)
    have last := toNat_byte (n := c.toNat % 64 + 128) (by omega)
    rw [char?, if_pos]
    · refine named ?_
      rw [payload, payload, lead, second, last]
      omega
    · rw [Bool.and_eq_true, Bool.and_eq_true, isLeadOfThree_iff, isSecond_iff,
        isContinuation_iff, lead, second, last]
      omega
  · have lead := toNat_byte (n := c.toNat / 262144 % 8 + 240) (by omega)
    have second := toNat_byte (n := c.toNat / 4096 % 64 + 128) (by omega)
    have third := toNat_byte (n := c.toNat / 64 % 64 + 128) (by omega)
    have last := toNat_byte (n := c.toNat % 64 + 128) (by omega)
    rw [char?, if_pos]
    · refine named ?_
      rw [payload, payload, payload, lead, second, third, last]
      omega
    · rw [Bool.and_eq_true, Bool.and_eq_true, Bool.and_eq_true, isLeadOfFour_iff, isSecond_iff,
        isContinuation_iff, isContinuation_iff, lead, second, third, last]
      omega

/-- A byte of ASCII stands by itself: it is no part of any other character. -/
theorem toNat_eq_of_mem_utf8EncodeChar {c : Char} {b : UInt8} (h : b ∈ String.utf8EncodeChar c)
    (low : b.toNat < 0x80) : c.toNat = b.toNat := by
  have valid := toNat_char c
  have high {n : Nat} (same : b = UInt8.ofNat n) (range : 0x80 ≤ n ∧ n < 256) : False := by
    rw [same, toNat_byte range.2] at low
    omega
  simp only [String.utf8EncodeChar, Char.toNat_val] at h
  split_ifs at h <;> simp only [List.mem_cons, List.not_mem_nil, or_false] at h
  · rw [h, toNat_byte (by omega)]
  · rcases h with h | h <;> exact (high h (by omega)).elim
  · rcases h with h | h | h <;> exact (high h (by omega)).elim
  · rcases h with h | h | h | h <;> exact (high h (by omega)).elim

/-- The encoding of the character with a number between two bounds, and the bytes it has then. -/
theorem utf8EncodeChar_ofNat {n : Nat} {bytes : List UInt8}
    (valid : n < 0xD800 ∨ 0xDFFF < n ∧ n < 0x110000)
    (encoded : ∀ c : Char, c.toNat = n → String.utf8EncodeChar c = bytes) :
    String.utf8EncodeChar (Char.ofNat n) = bytes := by
  refine encoded _ ?_
  have named : n.isValidChar := valid
  rw [Char.ofNat, dif_pos named]
  rfl

/-- Bytes that stand for a character are its encoding. -/
theorem eq_utf8EncodeChar_of_char? {bytes : List UInt8} {c : Char} (h : char? bytes = some c) :
    bytes = String.utf8EncodeChar c := by
  have byte {b : UInt8} {n : Nat} (same : n = b.toNat) : UInt8.ofNat n = b := by
    rw [same, UInt8.ofNat_toNat]
  match bytes, h with
  | [a], h =>
    obtain ⟨low, found⟩ := Option.ite_none_right_eq_some.1 h
    cases found
    simp only [UInt8.lt_iff_toNat_lt, UInt8.reduceToNat] at low
    refine (utf8EncodeChar_ofNat (by omega) fun c number => ?_).symm
    rw [String.utf8EncodeChar, Char.toNat_val, number, if_pos (by omega), byte rfl]
  | [a, b], h =>
    obtain ⟨ranges, found⟩ := Option.ite_none_right_eq_some.1 h
    cases found
    rw [Bool.and_eq_true, isLeadOfTwo_iff, isSecond_iff] at ranges
    simp only [payload]
    refine (utf8EncodeChar_ofNat (by omega) fun c number => ?_).symm
    rw [String.utf8EncodeChar, Char.toNat_val, number, if_neg (by omega), if_pos (by omega)]
    rw [byte (b := a) (by omega), byte (b := b) (by omega)]
  | [a, b, d], h =>
    obtain ⟨ranges, found⟩ := Option.ite_none_right_eq_some.1 h
    cases found
    rw [Bool.and_eq_true, Bool.and_eq_true, isLeadOfThree_iff, isSecond_iff,
      isContinuation_iff] at ranges
    simp only [payload]
    refine (utf8EncodeChar_ofNat (by omega) fun c number => ?_).symm
    rw [String.utf8EncodeChar, Char.toNat_val, number, if_neg (by omega), if_neg (by omega),
      if_pos (by omega)]
    rw [byte (b := a) (by omega), byte (b := b) (by omega), byte (b := d) (by omega)]
  | [a, b, d, e], h =>
    obtain ⟨ranges, found⟩ := Option.ite_none_right_eq_some.1 h
    cases found
    rw [Bool.and_eq_true, Bool.and_eq_true, Bool.and_eq_true, isLeadOfFour_iff, isSecond_iff,
      isContinuation_iff, isContinuation_iff] at ranges
    simp only [payload]
    refine (utf8EncodeChar_ofNat (by omega) fun c number => ?_).symm
    rw [String.utf8EncodeChar, Char.toNat_val, number, if_neg (by omega), if_neg (by omega),
      if_neg (by omega)]
    rw [byte (b := a) (by omega), byte (b := b) (by omega), byte (b := d) (by omega),
      byte (b := e) (by omega)]

/-! ## Beginnings of characters -/

/-- What only begins a character is none. -/
theorem char?_eq_none_of_isPartial {bytes : List UInt8} (begun : isPartial bytes = true) :
    char? bytes = none := by
  match bytes, begun with
  | [a], begun =>
    simp only [isPartial, Bool.or_eq_true, isLeadOfTwo_iff, isLeadOfThree_iff,
      isLeadOfFour_iff] at begun
    rw [char?, if_neg]
    simp only [UInt8.lt_iff_toNat_lt, UInt8.reduceToNat]
    omega
  | [a, b], begun =>
    simp only [isPartial, Bool.and_eq_true, Bool.or_eq_true, isLeadOfThree_iff,
      isLeadOfFour_iff] at begun
    rw [char?, if_neg]
    rw [Bool.and_eq_true, isLeadOfTwo_iff]
    omega
  | [a, b, d], begun =>
    simp only [isPartial, Bool.and_eq_true, isLeadOfFour_iff] at begun
    rw [char?, if_neg]
    rw [Bool.and_eq_true, Bool.and_eq_true, isLeadOfThree_iff]
    omega

/-- A character that goes on after some bytes begins with them. -/
theorem isPartial_of_char?_append {front back : List UInt8} {c : Char}
    (h : char? (front ++ back) = some c) (begun : front ≠ []) (unfinished : back ≠ []) :
    isPartial front = true := by
  obtain ⟨a, front, rfl⟩ := List.exists_cons_of_ne_nil begun
  obtain ⟨z, back, rfl⟩ := List.exists_cons_of_ne_nil unfinished
  -- One case for every way to cut two, three or four bytes in two.
  match front, back, h with
  | [], [], h | [], [_], h | [], [_, _], h | [_], [], h | [_], [_], h | [_, _], [], h =>
    obtain ⟨ranges, -⟩ := Option.ite_none_right_eq_some.1 h
    simp_all [isPartial]
  | _ :: _ :: _ :: front, back, h =>
    have long : front ++ z :: back ≠ [] := by simp
    simp [char?, long] at h

/-! ## Whole texts -/

/-- A scan that has begun a character ends it and goes on behind it. -/
theorem decodeFrom_append_of_char? {seen more : List UInt8} (rest : List UInt8) (index : Nat)
    {c : Char}
    (h : char? (seen ++ more) = some c) (unfinished : more ≠ []) :
    decodeFrom seen index (more ++ rest) =
      (decodeFrom [] (index + (seen ++ more).length) rest).map (c :: ·) := by
  induction more generalizing seen with
  | nil => exact absurd rfl unfinished
  | cons b more ih =>
    rw [List.append_cons] at h ⊢
    rw [List.cons_append, decodeFrom]
    cases more with
    | nil =>
      rw [List.append_nil] at h ⊢
      simp only [h, List.nil_append]
    | cons d more =>
      have begun := isPartial_of_char?_append h (by simp) (by simp)
      simp only [char?_eq_none_of_isPartial begun, begun, if_true]
      exact ih h (by simp)

/-- The scan of an encoded character. -/
theorem decodeFrom_utf8EncodeChar_append (c : Char) (index : Nat) (rest : List UInt8) :
    decodeFrom [] index (String.utf8EncodeChar c ++ rest) =
      (decodeFrom [] (index + c.utf8Size) rest).map (c :: ·) := by
  have whole : char? ([] ++ String.utf8EncodeChar c) = some c := char?_utf8EncodeChar c
  have scanned := decodeFrom_append_of_char? rest index whole String.utf8EncodeChar_ne_nil
  rwa [List.nil_append, String.length_utf8EncodeChar] at scanned

theorem decodeFrom_flatMap_utf8EncodeChar (chars : List Char) (index : Nat) :
    decodeFrom [] index (chars.flatMap String.utf8EncodeChar) = .ok chars := by
  induction chars generalizing index with
  | nil => rfl
  | cons c chars ih =>
    rw [List.flatMap_cons, decodeFrom_utf8EncodeChar_append, ih]
    rfl

/-- A scan that comes to its end has taken the encoding of what it found. -/
theorem eq_flatMap_of_decodeFrom {seen bytes : List UInt8} {index : Nat} {chars : List Char}
    (h : decodeFrom seen index bytes = .ok chars) :
    seen ++ bytes = chars.flatMap String.utf8EncodeChar := by
  induction bytes generalizing seen index chars with
  | nil =>
    rw [decodeFrom] at h
    split at h
    · next none_seen =>
      cases h
      rw [List.isEmpty_iff.1 none_seen]
      rfl
    · cases h
  | cons b bytes ih =>
    simp only [decodeFrom] at h
    split at h
    · next c found =>
      cases scanned : decodeFrom [] (index + (seen ++ [b]).length) bytes with
      | error fault => rw [scanned] at h; cases h
      | ok others =>
        rw [scanned] at h
        cases h
        rw [List.flatMap_cons, ← ih scanned, ← eq_utf8EncodeChar_of_char? found,
          List.append_assoc]
        rfl
    · split at h
      · rw [List.append_cons]
        exact ih h
      · cases h

/-- The bytes that decode to a text are those that encode it. -/
theorem decode_eq_ok_iff {bytes : List UInt8} {text : String} :
    decode bytes = .ok text ↔ bytes = encode text := by
  constructor
  · intro h
    cases scanned : decodeFrom [] 0 bytes with
    | error fault => rw [decode, scanned] at h; cases h
    | ok chars =>
      rw [decode, scanned] at h
      cases h
      rw [encode, String.toList_ofList]
      exact eq_flatMap_of_decodeFrom scanned
  · rintro rfl
    rw [decode, encode, decodeFrom_flatMap_utf8EncodeChar]
    exact congrArg Except.ok String.ofList_toList

/-- Different texts have different bytes. -/
theorem encode_injective : Function.Injective encode := by
  intro text other same
  exact Except.ok.inj ((decode_eq_ok_iff.2 rfl).symm.trans (decode_eq_ok_iff.2 same))

theorem encode_append (front back : String) :
    encode (front ++ back) = encode front ++ encode back := by
  rw [encode, String.toList_append, List.flatMap_append]
  rfl

theorem encode_join (pieces : List String) :
    encode (String.join pieces) = pieces.flatMap encode := by
  rw [encode, String.toList_join, List.flatMap_assoc]
  rfl

/-! ## Characters of ASCII among bytes -/

/-- A character of ASCII is one byte, and no other character has that byte. -/
theorem count_utf8EncodeChar {c : Char} (low : c.toNat < 0x80) (other : Char) :
    (String.utf8EncodeChar other).count (UInt8.ofNat c.toNat) = if other == c then 1 else 0 := by
  have byte := toNat_byte (n := c.toNat) (by omega)
  by_cases same : other = c
  · subst same
    rw [String.utf8EncodeChar, Char.toNat_val, if_pos (Nat.le_of_lt_succ low),
      List.count_singleton_self, beq_self_eq_true, if_pos rfl]
  · rw [beq_false_of_ne same, if_neg Bool.false_ne_true, List.count_eq_zero]
    intro listed
    have number := toNat_eq_of_mem_utf8EncodeChar listed (by rwa [byte])
    exact same (Char.toNat_inj.1 (number.trans byte))

/-- A character of ASCII stands in a text as often as its byte does in the encoding. -/
theorem count_encode {c : Char} (low : c.toNat < 0x80) (text : String) :
    (encode text).count (UInt8.ofNat c.toNat) = text.toList.count c := by
  rw [encode]
  induction text.toList with
  | nil => rfl
  | cons first others ih =>
    rw [List.flatMap_cons, List.count_append, List.count_cons, ih, count_utf8EncodeChar low,
      Nat.add_comm]

end Preflight.Text.Utf8
