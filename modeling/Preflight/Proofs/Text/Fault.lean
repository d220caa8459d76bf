import Preflight.Proofs.Text.Utf8

/-!
Where a text breaks off that is no UTF-8, and how much of a character stands there.

What is well-formed is said by the encoding of the standard library. Bytes that are refused are the
encoding of some characters and a rest. The rest begins a character and is at its end, or it begins
one up to a byte that no character goes on with. Which of the two it is shows whether more bytes
could have made a text of them.
-/

namespace Preflight.Text.Utf8

/-! ## Well-formed bytes and beginnings of characters -/

/-- Whether bytes are UTF-8. -/
def WellFormed (bytes : List UInt8) : Prop := bytes.toByteArray.IsValidUTF8

/-- Whether bytes are a proper beginning of the encoding of a character. -/
def BeginsCharacter (part : List UInt8) : Prop :=
  ∃ c : Char, part <+: String.utf8EncodeChar c ∧ part ≠ String.utf8EncodeChar c

/-- The longest beginning of some bytes that has a property. -/
structure IsLongestPrefix (property : List UInt8 → Prop) (bytes front : List UInt8) : Prop where
  begins : front <+: bytes
  holds : property front
  longest : ∀ other, other <+: bytes → property other → other.length ≤ front.length

theorem wellFormed_iff {bytes : List UInt8} :
    WellFormed bytes ↔ ∃ chars : List Char, bytes = chars.flatMap String.utf8EncodeChar := by
  constructor
  · rintro ⟨chars, same⟩
    exact ⟨chars, List.toByteArray_inj.1 same⟩
  · rintro ⟨chars, rfl⟩
    exact ⟨chars, rfl⟩

theorem eq_encode_iff {bytes : List UInt8} {text : String} :
    bytes = encode text ↔ bytes.toByteArray = text.toUTF8 := by
  rw [String.toUTF8_eq_toByteArray, ← String.utf8Encode_toList]
  exact List.toByteArray_inj.symm

theorem BeginsCharacter.length_le {part : List UInt8} (begins : BeginsCharacter part) :
    part.length ≤ 3 := by
  obtain ⟨c, ⟨more, whole⟩, proper⟩ := begins
  have size := congrArg List.length whole
  rw [List.length_append, String.length_utf8EncodeChar] at size
  have small := c.utf8Size_le_four
  have unfinished : more.length ≠ 0 := by
    intro none
    rw [List.length_eq_zero_iff.1 none, List.append_nil] at whole
    exact proper whole
  omega

/-- Every lead can be followed by some byte: a low continuation, or a high one where an overlong
form has to be kept out. -/
theorem exists_isSecond (lead : UInt8) : ∃ b, isSecond lead b = true := by
  by_cases narrowed : lead.toNat = 0xE0 ∨ lead.toNat = 0xF0
  · refine ⟨0xA0, isSecond_iff.2 ?_⟩
    simp only [UInt8.reduceToNat]
    omega
  · refine ⟨0x80, isSecond_iff.2 ?_⟩
    simp only [UInt8.reduceToNat]
    omega

/-- What begins a character can be ended. -/
theorem exists_char_of_isPartial {part : List UInt8} (begun : isPartial part = true) :
    ∃ more c, char? (part ++ more) = some c := by
  have low : isContinuation 0x80 = true := by decide
  match part, begun with
  | [a], begun =>
    obtain ⟨b, second⟩ := exists_isSecond a
    simp only [isPartial, Bool.or_eq_true] at begun
    rcases begun with (two | three) | four
    · exact ⟨[b], _, if_pos (by rw [two, second]; rfl)⟩
    · exact ⟨[b, 0x80], _, if_pos (by rw [three, second, low]; rfl)⟩
    · exact ⟨[b, 0x80, 0x80], _, if_pos (by rw [four, second, low]; rfl)⟩
  | [a, b], begun =>
    simp only [isPartial, Bool.and_eq_true, Bool.or_eq_true] at begun
    obtain ⟨three | four, second⟩ := begun
    · exact ⟨[0x80], _, if_pos (by rw [three, second, low]; rfl)⟩
    · exact ⟨[0x80, 0x80], _, if_pos (by rw [four, second, low]; rfl)⟩
  | [a, b, d], begun =>
    simp only [isPartial, Bool.and_eq_true] at begun
    obtain ⟨⟨four, second⟩, third⟩ := begun
    exact ⟨[0x80], _, if_pos (by rw [four, second, third, low]; rfl)⟩

/-- Bytes begin a character when the scan takes them for a part of one, or there are none. -/
theorem beginsCharacter_iff {part : List UInt8} :
    BeginsCharacter part ↔ part = [] ∨ isPartial part = true := by
  constructor
  · rintro ⟨c, ⟨more, whole⟩, proper⟩
    by_cases none : part = []
    · exact .inl none
    · right
      have unfinished : more ≠ [] := by
        rintro rfl
        rw [List.append_nil] at whole
        exact proper whole
      exact isPartial_of_char?_append (whole ▸ char?_utf8EncodeChar c) none unfinished
  · rintro (rfl | begun)
    · exact ⟨'a', List.nil_prefix, String.utf8EncodeChar_ne_nil.symm⟩
    · obtain ⟨more, c, whole⟩ := exists_char_of_isPartial begun
      refine ⟨c, ⟨more, eq_utf8EncodeChar_of_char? whole⟩, ?_⟩
      rintro rfl
      have none := char?_eq_none_of_isPartial begun
      rw [char?_utf8EncodeChar] at none
      cases none

/-- Bytes that neither stand for a character nor begin one are the beginning of none. -/
theorem not_prefix_of_refused {part : List UInt8} (given : part ≠ [])
    (none : char? part = none) (unbegun : isPartial part = false) (c : Char) :
    ¬part <+: String.utf8EncodeChar c := by
  intro front
  by_cases whole : part = String.utf8EncodeChar c
  · rw [whole, char?_utf8EncodeChar] at none
    cases none
  · rcases beginsCharacter_iff.1 ⟨c, front, whole⟩ with empty | begun
    · exact given empty
    · rw [unbegun] at begun
      cases begun

/-! ## Where the scan stops -/

/-- What stands behind the last whole character of bytes that are refused, and how the refusal is
told: a character that the input ends in, or the beginning of one and a byte that does not go on
with it. -/
inductive StopsAt (rest : List UInt8) (index : Nat) : Fault → Prop
  | truncated : rest ≠ [] → BeginsCharacter rest → StopsAt rest index (.truncated index)
  | malformed {begun behind : List UInt8} {b : UInt8} :
    rest = begun ++ b :: behind → BeginsCharacter begun →
    (∀ c, ¬begun ++ [b] <+: String.utf8EncodeChar c) →
    StopsAt rest index (.malformed index (max 1 begun.length))

theorem eq_error_of_map {α β ε : Type} {f : α → β} {outcome : Except ε α} {error : ε}
    (h : outcome.map f = .error error) : outcome = .error error := by
  cases outcome with
  | error other => exact congrArg Except.error (Except.error.inj h)
  | ok result => cases h

/-- A scan that is refused has taken whole characters up to where it stops. -/
theorem exists_stopsAt {seen bytes : List UInt8} {index : Nat} {fault : Fault}
    (begun : BeginsCharacter seen) (refused : decodeFrom seen index bytes = .error fault) :
    ∃ (chars : List Char) (rest : List UInt8),
      seen ++ bytes = chars.flatMap String.utf8EncodeChar ++ rest ∧
        StopsAt rest (index + (chars.flatMap String.utf8EncodeChar).length) fault := by
  induction bytes generalizing seen index with
  | nil =>
    rw [decodeFrom] at refused
    split at refused
    · cases refused
    · next given =>
      cases refused
      rw [List.isEmpty_iff] at given
      exact ⟨[], seen, List.append_nil seen, .truncated given begun⟩
  | cons b bytes ih =>
    simp only [decodeFrom] at refused
    split at refused
    · next c found =>
      have nothing : BeginsCharacter [] := beginsCharacter_iff.2 (.inl rfl)
      obtain ⟨chars, rest, parts, stops⟩ := ih nothing (eq_error_of_map refused)
      rw [List.nil_append] at parts
      rw [eq_utf8EncodeChar_of_char? found, Nat.add_assoc, ← List.length_append] at stops
      refine ⟨c :: chars, rest, ?_, stops⟩
      rw [List.append_cons, eq_utf8EncodeChar_of_char? found, parts, List.flatMap_cons,
        List.append_assoc]
    · next none =>
      split at refused
      · next goesOn =>
        rw [List.append_cons]
        exact ih (beginsCharacter_iff.2 (.inr goesOn)) refused
      · next ends =>
        cases refused
        have ruledOut := not_prefix_of_refused (by simp) none (Bool.eq_false_iff.2 ends)
        exact ⟨[], seen ++ b :: bytes, rfl, .malformed rfl begun ruledOut⟩

/-- Where a fault says that the sound text ends. -/
def Fault.index : Fault → Nat
  | .malformed index _ => index
  | .truncated index => index

/-- The message of a fault begins with what makes the difference between the two kinds. -/
theorem Fault.incomplete_iff {fault : Fault} :
    "incomplete".toList <+: fault.message.toList ↔ fault = .truncated fault.index := by
  cases fault with
  | truncated index =>
    have begins : "incomplete".toList <+: "incomplete utf-8 byte sequence from index ".toList := by
      decide +kernel
    have within := begins.trans (List.prefix_append _ (toString index).toList)
    rw [← String.toList_append] at within
    exact iff_of_true within rfl
  | malformed index length =>
    have other : ¬"incomplete".toList <+: "invalid utf-8 sequence of ".toList ∧
        ¬"invalid utf-8 sequence of ".toList <+: "incomplete".toList := by decide +kernel
    have parts : (Fault.malformed index length).message = "invalid utf-8 sequence of " ++
        (toString length ++ (" bytes from index " ++ toString index)) :=
      String.append_assoc.trans String.append_assoc
    refine iff_of_false (fun begins => ?_) nofun
    rw [parts, String.toList_append] at begins
    rcases List.prefix_or_prefix_of_prefix begins (List.prefix_append _ _) with within | within
    · exact other.1 within
    · exact other.2 within

theorem StopsAt.index_eq {rest : List UInt8} {index : Nat} {fault : Fault}
    (stops : StopsAt rest index fault) : fault.index = index := by
  cases stops <;> rfl

/-! ## What the fault tells -/

/-- What is refused is refused behind any whole characters at its beginning. -/
theorem decodeFrom_eq_error_behind {chars : List Char} {index : Nat} {rest : List UInt8}
    {fault : Fault}
    (refused : decodeFrom [] index (chars.flatMap String.utf8EncodeChar ++ rest) = .error fault) :
    decodeFrom [] (index + (chars.flatMap String.utf8EncodeChar).length) rest = .error fault := by
  induction chars generalizing index with
  | nil => exact refused
  | cons c chars ih =>
    rw [List.flatMap_cons, List.append_assoc, decodeFrom_utf8EncodeChar_append] at refused
    have behind := ih (eq_error_of_map refused)
    rwa [Nat.add_assoc, ← String.length_utf8EncodeChar, ← List.length_append] at behind

/-- A fault lies where the scan has got to, or behind. -/
theorem le_index_of_decodeFrom {seen bytes : List UInt8} {index : Nat} {fault : Fault}
    (refused : decodeFrom seen index bytes = .error fault) : index ≤ fault.index := by
  induction bytes generalizing seen index with
  | nil =>
    rw [decodeFrom] at refused
    split at refused
    · cases refused
    · cases refused
      exact Nat.le_refl _
  | cons b bytes ih =>
    simp only [decodeFrom] at refused
    split at refused
    · exact Nat.le_trans (Nat.le_add_right _ _) (ih (eq_error_of_map refused))
    · split at refused
      · exact ih refused
      · cases refused
        exact Nat.le_refl _

/-- What is malformed stays so, whatever comes behind. -/
theorem decodeFrom_append_of_malformed {seen bytes : List UInt8} {index place length : Nat}
    (refused : decodeFrom seen index bytes = .error (.malformed place length))
    (more : List UInt8) :
    decodeFrom seen index (bytes ++ more) = .error (.malformed place length) := by
  induction bytes generalizing seen index with
  | nil =>
    rw [decodeFrom] at refused
    split at refused <;> cases refused
  | cons b bytes ih =>
    rw [List.cons_append]
    simp only [decodeFrom] at refused ⊢
    split at refused
    · rw [ih (eq_error_of_map refused)]
      rfl
    · split at refused
      · next goesOn =>
        rw [if_pos goesOn]
        exact ih refused
      · next ends =>
        rw [if_neg ends]
        exact refused

/-- No character begins with more of the rest than the scan has found to begin one. -/
theorem StopsAt.exists_longest {rest : List UInt8} {index : Nat} {fault : Fault}
    (stops : StopsAt rest index fault) :
    ∃ begun, IsLongestPrefix BeginsCharacter rest begun ∧
      (fault = .truncated index ∧ BeginsCharacter rest ∨
        fault = .malformed index (max 1 begun.length)) := by
  cases stops with
  | truncated given begins =>
    have longest : IsLongestPrefix BeginsCharacter rest rest :=
      ⟨List.prefix_refl rest, begins, fun other front _ => front.length_le⟩
    exact ⟨rest, longest, .inl ⟨rfl, begins⟩⟩
  | @malformed begun behind b parts begins ruledOut =>
    refine ⟨begun, ⟨⟨b :: behind, parts.symm⟩, begins, fun other front also => ?_⟩, .inr rfl⟩
    by_contra longer
    obtain ⟨c, inside, -⟩ := also
    have upTo : begun ++ [b] <+: rest := ⟨behind, by rw [parts, ← List.append_cons]⟩
    have within : begun ++ [b] <+: other := by
      apply List.prefix_of_prefix_length_le upTo front
      rw [List.length_append, List.length_singleton]
      omega
    exact ruledOut c (within.trans inside)

theorem decode_eq_error_iff {bytes : List UInt8} {fault : Fault} :
    decode bytes = .error fault ↔ decodeFrom [] 0 bytes = .error fault := by
  unfold decode
  exact ⟨eq_error_of_map, fun refused => by rw [refused]; rfl⟩

/-- Bytes that are malformed are the beginning of no text. -/
theorem not_wellFormed_append_of_malformed {bytes : List UInt8} {place length : Nat}
    (refused : decode bytes = .error (.malformed place length)) (more : List UInt8) :
    ¬WellFormed (bytes ++ more) := by
  intro wellFormed
  obtain ⟨chars, same⟩ := wellFormed_iff.1 wellFormed
  have still := decodeFrom_append_of_malformed (decode_eq_error_iff.1 refused) more
  rw [same, decodeFrom_flatMap_utf8EncodeChar] at still
  cases still

/-- The fault of refused bytes tells the length of their longest well-formed beginning, whether they
can still become a text, and if they cannot, how much of a character stands behind that beginning.
-/
theorem exists_of_decode_eq_error {bytes : List UInt8} {fault : Fault}
    (refused : decode bytes = .error fault) :
    ∃ sound begun, IsLongestPrefix WellFormed bytes sound ∧
      IsLongestPrefix BeginsCharacter (bytes.drop sound.length) begun ∧
      ((∃ more, WellFormed (bytes ++ more)) ∧ fault = .truncated sound.length ∨
        (¬∃ more, WellFormed (bytes ++ more)) ∧
          fault = .malformed sound.length (max 1 begun.length)) := by
  have scanned := decode_eq_error_iff.1 refused
  have nothing : BeginsCharacter [] := beginsCharacter_iff.2 (.inl rfl)
  obtain ⟨chars, rest, parts, stops⟩ := exists_stopsAt nothing scanned
  rw [List.nil_append] at parts
  rw [Nat.zero_add] at stops
  obtain ⟨begun, longest, told⟩ := stops.exists_longest
  refine ⟨_, begun, ⟨⟨rest, parts.symm⟩, wellFormed_iff.2 ⟨chars, rfl⟩, ?_⟩, ?_, ?_⟩
  · rintro other ⟨behind, whole⟩ wellFormed
    obtain ⟨others, rfl⟩ := wellFormed_iff.1 wellFormed
    rw [← whole] at scanned
    have reached := le_index_of_decodeFrom (decodeFrom_eq_error_behind scanned)
    rwa [stops.index_eq, Nat.zero_add] at reached
  · rw [parts, List.drop_left]
    exact longest
  · rcases told with ⟨rfl, c, ⟨more, whole⟩, -⟩ | rfl
    · refine .inl ⟨⟨more, wellFormed_iff.2 ⟨chars ++ [c], ?_⟩⟩, rfl⟩
      rw [parts, List.append_assoc, whole, List.flatMap_append, List.flatMap_singleton]
    · exact .inr ⟨fun ⟨more, wellFormed⟩ =>
        not_wellFormed_append_of_malformed refused more wellFormed, rfl⟩

end Preflight.Text.Utf8
