import Preflight.Proofs.Text.Utf8
import Preflight.Text.Occurrence

/-!
Occurrences of one text in another, by characters and by bytes.

The bytes of a character show where it begins: the first one is a lead and no other is. So bytes of
a name that are found among those of a text begin at the beginning of a character, and from there on
they are whole characters. A search through bytes finds a name where a search through characters
does, and nowhere else.
-/

namespace Preflight.Text

/-- Whether a name occurs in a text: there is a text in front of it and one behind. -/
def Occurs (name text : String) : Prop := ∃ front back : String, text = front ++ name ++ back

theorem contains_iff_occurs {text name : String} :
    contains text name = true ↔ Occurs name text := by
  rw [contains_iff]
  constructor
  · rintro ⟨front, back, whole⟩
    refine ⟨String.ofList front, String.ofList back, String.toList_inj.1 ?_⟩
    simp only [String.toList_append, String.toList_ofList, whole]
  · rintro ⟨front, back, rfl⟩
    exact ⟨front.toList, back.toList, by simp only [String.toList_append]⟩

instance (name text : String) : Decidable (Occurs name text) :=
  decidable_of_iff _ contains_iff_occurs

/-- What occurs in a part of a text occurs in the text. -/
theorem Occurs.trans {name part text : String} (inner : Occurs name part)
    (outer : Occurs part text) : Occurs name text := by
  obtain ⟨front, back, rfl⟩ := inner
  obtain ⟨before, behind, rfl⟩ := outer
  exact ⟨before ++ front, back ++ behind, by simp only [String.append_assoc]⟩

namespace Utf8

/-- Whether some bytes stand among others with so many in front of them. -/
def StandsAt (bytes part : List UInt8) (place : Nat) : Prop :=
  ∃ front back, front.length = place ∧ bytes = front ++ part ++ back

/-! ## Where characters begin -/

/-- Where the encoding of a character goes on, no other character begins. -/
theorem eq_nil_of_isUTF8FirstByte {c : Char} {front rest : List UInt8} {lead : UInt8}
    (parts : String.utf8EncodeChar c = front ++ lead :: rest) (first : lead.IsUTF8FirstByte) :
    front = [] := by
  have inside : front.length < (String.utf8EncodeChar c).length := by
    rw [parts, List.length_append, List.length_cons]
    omega
  have found : (String.utf8EncodeChar c)[front.length] = lead := by
    simp only [parts, List.getElem_append_right (Nat.le_refl _), Nat.sub_self,
      List.getElem_cons_zero]
  rw [← found, UInt8.isUTF8FirstByte_getElem_utf8EncodeChar] at first
  exact List.length_eq_zero_iff.1 first

/-- The bytes in front of a first byte are those of whole characters. -/
theorem exists_chars_of_isUTF8FirstByte {chars : List Char} {front rest : List UInt8}
    {lead : UInt8} (first : lead.IsUTF8FirstByte)
    (parts : chars.flatMap String.utf8EncodeChar = front ++ lead :: rest) :
    ∃ before behind, chars = before ++ behind ∧ front = before.flatMap String.utf8EncodeChar ∧
      behind.flatMap String.utf8EncodeChar = lead :: rest := by
  induction chars generalizing front with
  | nil => simp at parts
  | cons c chars ih =>
    have whole := parts
    rw [List.flatMap_cons, List.append_eq_append_iff] at parts
    -- The first byte stands behind this character, or it is a byte of it, then the one in front.
    rcases parts with ⟨more, rfl, others⟩ | ⟨more, cut, others⟩
    · obtain ⟨before, behind, rfl, rfl, rest⟩ := ih others
      exact ⟨c :: before, behind, rfl, List.flatMap_cons.symm, rest⟩
    · cases more with
      | nil =>
        rw [List.append_nil] at cut
        refine ⟨[c], chars, rfl, ?_, others.symm⟩
        rw [← cut, List.flatMap_singleton]
      | cons b more =>
        obtain rfl := (List.cons.inj others).1
        obtain rfl := eq_nil_of_isUTF8FirstByte cut first
        exact ⟨[], c :: chars, rfl, rfl, whole⟩

/-- Bytes that begin with those of whole characters are those of these characters and others. -/
theorem exists_chars_of_append {name chars : List Char} {back : List UInt8}
    (parts : chars.flatMap String.utf8EncodeChar = name.flatMap String.utf8EncodeChar ++ back) :
    ∃ behind, chars = name ++ behind ∧ back = behind.flatMap String.utf8EncodeChar := by
  induction name generalizing chars with
  | nil => exact ⟨chars, rfl, parts.symm⟩
  | cons c name ih =>
    have scanned := decodeFrom_flatMap_utf8EncodeChar chars 0
    rw [parts, List.flatMap_cons, List.append_assoc, decodeFrom_utf8EncodeChar_append] at scanned
    cases rest : decodeFrom [] (0 + c.utf8Size) (name.flatMap String.utf8EncodeChar ++ back) with
    | error fault =>
      rw [rest] at scanned
      cases scanned
    | ok others =>
      rw [rest] at scanned
      cases scanned
      obtain ⟨behind, rfl, rfl⟩ := ih (eq_flatMap_of_decodeFrom rest).symm
      exact ⟨behind, rfl, rfl⟩

/-! ## Names among bytes -/

/-- The encoding of a name that is not empty begins with a first byte. -/
theorem exists_first_of_ne_empty {name : String} (given : name ≠ "") :
    ∃ lead rest, encode name = lead :: rest ∧ lead.IsUTF8FirstByte := by
  obtain ⟨c, chars, letters⟩ := List.exists_cons_of_ne_nil (String.toList_eq_nil_iff.not.2 given)
  obtain ⟨lead, rest, bytes⟩ := List.exists_cons_of_ne_nil (String.utf8EncodeChar_ne_nil (c := c))
  refine ⟨lead, rest ++ chars.flatMap String.utf8EncodeChar, ?_, ?_⟩
  · rw [encode, letters, List.flatMap_cons, bytes, List.cons_append]
  · have long : 0 < (String.utf8EncodeChar c).length := by
      rw [bytes]
      exact Nat.succ_pos _
    have zeroth : (String.utf8EncodeChar c)[0] = lead := by
      simp only [bytes, List.getElem_cons_zero]
    rw [← zeroth, UInt8.isUTF8FirstByte_getElem_utf8EncodeChar]

/-- The bytes of a name that is not empty stand where the name does, and nowhere else. -/
theorem standsAt_encode_iff {name text : String} (given : name ≠ "") {place : Nat} :
    StandsAt (encode text) (encode name) place ↔
      ∃ front back : String, text = front ++ name ++ back ∧ (encode front).length = place := by
  constructor
  · rintro ⟨front, back, long, parts⟩
    obtain ⟨lead, rest, begins, first⟩ := exists_first_of_ne_empty given
    rw [List.append_assoc, begins, List.cons_append] at parts
    obtain ⟨before, behind, whole, rfl, found⟩ := exists_chars_of_isUTF8FirstByte first parts
    rw [← List.cons_append, ← begins] at found
    obtain ⟨after, rfl, -⟩ := exists_chars_of_append found
    refine ⟨String.ofList before, String.ofList after, String.toList_inj.1 ?_, ?_⟩
    · simp only [String.toList_append, String.toList_ofList, whole, List.append_assoc]
    · rw [encode, String.toList_ofList]
      exact long
  · rintro ⟨front, back, rfl, long⟩
    exact ⟨encode front, encode back, long, by simp only [encode_append]⟩

/-- A name occurs in a text when its bytes stand somewhere among those of the text. -/
theorem occurs_iff_exists_standsAt {name text : String} :
    Occurs name text ↔ ∃ place, StandsAt (encode text) (encode name) place := by
  by_cases none : name = ""
  · subst none
    refine iff_of_true ⟨"", text, ?_⟩ ⟨0, [], encode text, rfl, rfl⟩
    simp only [String.append_empty, String.empty_append]
  · simp only [standsAt_encode_iff none]
    constructor
    · rintro ⟨front, back, whole⟩
      exact ⟨_, front, back, whole, rfl⟩
    · rintro ⟨-, front, back, whole, -⟩
      exact ⟨front, back, whole⟩

end Utf8

end Preflight.Text
