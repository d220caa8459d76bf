import Mathlib.Tactic.Common
import Preflight.Json.Reader
import Preflight.Proofs.Json.Grammar

/-!
The readers take every spelling of a value: whichever gaps, escapes and digits a document uses, a
reader gives the result that the value stands for and leaves what follows unread.

`Reads` says so of one reader and one value. It is proved for texts and booleans, and passed on to
lists by their items and to records by their members, so that a statement about a type of documents
never opens a reader.
-/

namespace Preflight.Json

/-- A reader takes a value, whichever way it is spelled and whatever gap is in front, and leaves
what follows. What follows must not go on with a digit, or it would go on with a number. -/
def Reads {α : Type} (reader : Reader α) (value : Value) (result : α) : Prop :=
  ∀ ⦃gap text rest : List Char⦄, IsGap gap → Spelling value text → startsWithDigit rest = false →
    reader (gap ++ text ++ rest) = .ok (result, rest)

/-- A result may be turned into another one behind the reader. -/
theorem Reads.map {α β : Type} {reader : Reader α} {value : Value} {result : α}
    (taken : Reads reader value result) (f : α → β) :
    Reads (fun chars => (reader chars).map fun read => (f read.1, read.2)) value (f result) := by
  intro gap text rest hgap h noDigit
  simp only [taken hgap h noDigit]
  rfl

/-! ## Gaps -/

theorem isGap_iff {c : Char} : isGap c = true ↔ c = ' ' ∨ c = '\n' ∨ c = '\t' ∨ c = '\r' := by
  simp [isGap, or_assoc]

/-- Gaps are skipped as a whole. -/
theorem skipGap_append {gap : List Char} (h : IsGap gap) (text : List Char) :
    skipGap (gap ++ text) = skipGap text :=
  List.dropWhile_append_of_pos fun c hc => isGap_iff.2 (h c hc)

theorem skipGap_cons {c : Char} (h : isGap c = false) (text : List Char) :
    skipGap (c :: text) = c :: text := by
  rw [skipGap, List.dropWhile_cons_of_neg (by rw [h]; exact Bool.false_ne_true)]

theorem skipGap_gap {gap : List Char} (h : IsGap gap) : skipGap gap = [] := by
  have all := skipGap_append h []
  rwa [List.append_nil] at all

/-- A gap and a character that is no digit do not go on with a digit. -/
theorem startsWithDigit_gap_cons {gap : List Char} {c : Char} (h : IsGap gap)
    (hc : c.isDigit = false) (rest : List Char) : startsWithDigit (gap ++ c :: rest) = false := by
  cases gap with
  | nil => exact hc
  | cons d gap =>
    rcases h d List.mem_cons_self with rfl | rfl | rfl | rfl <;> rfl

theorem startsWithDigit_gap {gap : List Char} (h : IsGap gap) : startsWithDigit gap = false := by
  cases gap with
  | nil => rfl
  | cons d gap =>
    rcases h d List.mem_cons_self with rfl | rfl | rfl | rfl <;> rfl

/-! ## Characters -/

theorem hexValue?_lowerHexDigit :
    ∀ n < 16, Text.hexValue? (lowerHexDigit n) = some n := by decide

theorem hexValue?_upperHexDigit :
    ∀ n < 16, Text.hexValue? (upperHexDigit n) = some n := by decide

theorem hexValue?_of_isHexDigit {n : Nat} {digit : Char} (small : n < 16) (h : IsHexDigit n digit) :
    Text.hexValue? digit = some n := by
  rcases h with rfl | rfl
  · exact hexValue?_lowerHexDigit n small
  · exact hexValue?_upperHexDigit n small

/-- Four digits are read as the code unit they stand for. -/
theorem readQuad_digits {unit : Nat} {a b c d : Char} (small : unit < 0x10000)
    (ha : IsHexDigit (unit / 0x1000) a) (hb : IsHexDigit (unit / 0x100 % 0x10) b)
    (hc : IsHexDigit (unit / 0x10 % 0x10) c) (hd : IsHexDigit (unit % 0x10) d)
    (rest : List Char) : readQuad (a :: b :: c :: d :: rest) = .ok (unit, rest) := by
  have quad : hexQuad? a b c d = some unit := by
    simp only [hexQuad?, hexValue?_of_isHexDigit (by omega) ha,
      hexValue?_of_isHexDigit (by omega) hb, hexValue?_of_isHexDigit (by omega) hc,
      hexValue?_of_isHexDigit (by omega) hd, bind, Option.bind_some, pure, Option.some.injEq]
    omega
  simp only [readQuad, quad]

/-- The halves of a surrogate pair are told apart by their numbers and make the character again. -/
theorem pairedChar_halves {c : Char} (large : 0x10000 ≤ c.toNat) :
    ∃ high low, codeUnits c = [high, low] ∧ high < 0x10000 ∧ low < 0x10000 ∧
      isLowSurrogate high = false ∧ isHighSurrogate high = true ∧ isLowSurrogate low = true ∧
      pairedChar high low = c := by
  have valid : c.toNat < 0xD800 ∨ 0xDFFF < c.toNat ∧ c.toNat < 0x110000 := c.valid
  refine ⟨_, _, by rw [codeUnits, if_neg (by omega)], by omega, by omega, ?_, ?_, ?_, ?_⟩
  · simp only [isLowSurrogate, Bool.and_eq_false_iff, decide_eq_false_iff_not]
    omega
  · simp only [isHighSurrogate, Bool.and_eq_true, decide_eq_true_eq]
    omega
  · simp only [isLowSurrogate, Bool.and_eq_true, decide_eq_true_eq]
    omega
  · rw [pairedChar]
    convert Char.ofNat_toNat c using 2
    omega

/-- A character written by its code units is read back. -/
theorem readUnit_units {c : Char} {text : List Char} (h : UnitsSpelling (codeUnits c) text)
    (rest : List Char) : readUnit (text ++ rest) = .ok (some c, rest) := by
  have valid : c.toNat < 0xD800 ∨ 0xDFFF < c.toNat ∧ c.toNat < 0x110000 := c.valid
  by_cases small : c.toNat < 0x10000
  · rw [codeUnits, if_pos small] at h
    obtain _ | ⟨h₁, h₂, h₃, h₄, _ | _⟩ := h
    have low : isLowSurrogate c.toNat = false := by
      simp only [isLowSurrogate, Bool.and_eq_false_iff, decide_eq_false_iff_not]
      omega
    have high : isHighSurrogate c.toNat = false := by
      simp only [isHighSurrogate, Bool.and_eq_false_iff, decide_eq_false_iff_not]
      omega
    simp [readUnit, readCodeUnit, readQuad_digits small h₁ h₂ h₃ h₄, low, high, bind, Except.bind,
      pure, Except.pure, Char.ofNat_toNat]
  · obtain ⟨high, low, units, high_lt, low_lt, not_low, is_high, is_low, paired⟩ :=
      pairedChar_halves (Nat.le_of_not_lt small)
    rw [units] at h
    obtain _ | ⟨h₁, h₂, h₃, h₄, _ | ⟨h₅, h₆, h₇, h₈, _ | _⟩⟩ := h
    simp [readUnit, readCodeUnit, readLowSurrogate, readQuad_digits high_lt h₁ h₂ h₃ h₄,
      readQuad_digits low_lt h₅ h₆ h₇ h₈, not_low, is_high, is_low, paired, bind, Except.bind,
      pure, Except.pure]

/-- A character is read back, whichever way it is written. -/
theorem readUnit_append {c : Char} {text : List Char} (h : CharSpelling c text)
    (rest : List Char) : readUnit (text ++ rest) = .ok (some c, rest) := by
  cases h with
  | raw printable quote backslash =>
    rw [List.singleton_append, readUnit.eq_def]
    split
    case h_6 spelled =>
      obtain ⟨rfl, rfl⟩ := List.cons.inj spelled
      exact if_neg (Nat.not_lt.2 printable)
    all_goals simp_all
  | short listed =>
    simp only [shortEscapes, List.mem_cons, Prod.mk.injEq, List.not_mem_nil, or_false] at listed
    rcases listed with ⟨rfl, rfl⟩ | ⟨rfl, rfl⟩ | ⟨rfl, rfl⟩ | ⟨rfl, rfl⟩ | ⟨rfl, rfl⟩ |
      ⟨rfl, rfl⟩ | ⟨rfl, rfl⟩ | ⟨rfl, rfl⟩ <;> rfl
  | units spelled => exact readUnit_units spelled rest

/-! ## Texts and booleans -/

theorem length_pos_of_charSpelling {c : Char} {text : List Char} (h : CharSpelling c text) :
    0 < text.length := by
  cases h with
  | raw => exact Nat.one_pos
  | short => exact Nat.two_pos
  | units spelled =>
    rw [codeUnits] at spelled
    split at spelled <;> cases spelled <;> exact Nat.succ_pos _

/-- Every character and the closing quote take room. -/
theorem length_lt_of_charsSpelling {cs body : List Char} (h : CharsSpelling cs body) :
    cs.length < body.length := by
  induction h with
  | close => exact Nat.one_pos
  | cons this others ih =>
    have := length_pos_of_charSpelling this
    rw [List.length_cons, List.length_append]
    omega

theorem readUnits_append {cs body : List Char} (h : CharsSpelling cs body) {units : Nat}
    (enough : cs.length < units) (rest : List Char) :
    readUnits units (body ++ rest) = .ok (cs, rest) := by
  induction h generalizing units with
  | close =>
    obtain ⟨units, rfl⟩ := Nat.exists_eq_succ_of_ne_zero (Nat.ne_of_gt enough)
    rfl
  | @cons c cs this others spelled _ ih =>
    rw [List.length_cons] at enough
    obtain ⟨units, rfl⟩ := Nat.exists_eq_succ_of_ne_zero (n := units) (by omega)
    rw [List.append_assoc, readUnits, readUnit_append spelled]
    simp only [bind, Except.bind, pure, Except.pure, ih (by omega : cs.length < units)]

/-- A text is read up to its closing quote. -/
theorem readTextBody_append {text : String} {body : List Char}
    (h : CharsSpelling text.toList body) (rest : List Char) :
    readTextBody (body ++ rest) = .ok (text, rest) := by
  have enough : text.toList.length < (body ++ rest).length + 1 := by
    have := length_lt_of_charsSpelling h
    rw [List.length_append]
    omega
  simp only [readTextBody, readUnits_append h enough, bind, Except.bind, pure, Except.pure,
    String.ofList_toList]

theorem reads_text (text : String) : Reads readText (.text text) text := by
  intro gap spelled rest hgap h _
  cases h with
  | text body =>
    rw [List.append_assoc, readText, skipGap_append hgap, List.cons_append, skipGap_cons rfl]
    exact readTextBody_append body rest

theorem reads_boolean (value : Bool) : Reads readBoolean (.boolean value) value := by
  intro gap spelled rest hgap h _
  rw [List.append_assoc, readBoolean, skipGap_append hgap]
  cases h <;> rfl

/-! ## Lists -/

/-- What spells a value begins with neither a gap nor a closing bracket. -/
theorem exists_cons_of_spelling {value : Value} {text : List Char} (h : Spelling value text) :
    ∃ c others, text = c :: others ∧ isGap c = false ∧ c ≠ ']' := by
  cases h with
  | @number n =>
    obtain ⟨c, others, digits⟩ :=
      List.exists_cons_of_ne_nil (Nat.toDigits_ne_nil (n := n) (b := 10))
    have digit : c.isDigit = true := Nat.isDigit_of_mem_toDigits (by decide) (by decide)
      (digits ▸ List.mem_cons_self)
    refine ⟨c, others, digits, ?_, ?_⟩
    · rw [Bool.eq_false_iff]
      intro h
      rcases isGap_iff.1 h with rfl | rfl | rfl | rfl <;> cases digit
    · rintro rfl
      cases digit
  | _ => exact ⟨_, _, rfl, rfl, by decide⟩

/-- What follows an item goes on with no digit. -/
theorem startsWithDigit_items {items : List Value} {text : List Char}
    (h : ItemsSpelling items text) (rest : List Char) : startsWithDigit (text ++ rest) = false := by
  cases h with
  | close gap =>
    rw [List.append_assoc]
    exact startsWithDigit_gap_cons gap rfl rest
  | next before =>
    rw [List.append_assoc]
    exact startsWithDigit_gap_cons before rfl _

/-- The reader moves to the first item behind the opening bracket. -/
theorem nextItem_first {item : Value} {gap this : List Char} (hgap : IsGap gap)
    (h : Spelling item this) (rest : List Char) :
    nextItem true (gap ++ this ++ rest) = .ok (true, this ++ rest) := by
  obtain ⟨c, others, rfl, noGap, noEnd⟩ := exists_cons_of_spelling h
  rw [nextItem, List.append_assoc, skipGap_append hgap, List.cons_append, skipGap_cons noGap]
  split <;> simp_all

/-- The reader moves to the next item behind a comma. -/
theorem nextItem_next {item : Value} {before gap this : List Char} (hbefore : IsGap before)
    (hgap : IsGap gap) (h : Spelling item this) (rest : List Char) :
    nextItem false (before ++ ',' :: (gap ++ this ++ rest)) = .ok (true, this ++ rest) := by
  obtain ⟨c, others, rfl, noGap, noEnd⟩ := exists_cons_of_spelling h
  have skipped : skipGap (gap ++ c :: (others ++ rest)) = c :: (others ++ rest) := by
    rw [skipGap_append hgap, skipGap_cons noGap]
  rw [nextItem, skipGap_append hbefore, skipGap_cons rfl, List.append_assoc, List.cons_append]
  split
  · next h => simp at h
  · next h => simp at h
  · next h =>
    obtain ⟨rfl, rfl⟩ := List.cons.inj h
    rw [if_neg Bool.false_ne_true, if_pos rfl, skipped]
    split <;> simp_all

/-- The reader stops before the closing bracket. -/
theorem nextItem_close {gap : List Char} (hgap : IsGap gap) (first : Bool) (rest : List Char) :
    nextItem first (gap ++ ']' :: rest) = .ok (false, ']' :: rest) := by
  rw [nextItem, skipGap_append hgap, skipGap_cons rfl]
  rfl

theorem length_lt_of_itemsSpelling {items : List Value} {text : List Char}
    (h : ItemsSpelling items text) : items.length < text.length := by
  induction items generalizing text with
  | nil =>
    cases h with
    | close gap => simp
  | cons item items ih =>
    cases h with
    | next before gap this others =>
      have := ih others
      simp only [List.length_cons, List.length_append]
      omega

section Lists

variable {α : Type} {reader : Reader α}

/-- The items after the first are read up to the closing bracket. -/
theorem readItems_next {items : List Value} {results : List α}
    (taken : List.Forall₂ (Reads reader) items results) {text : List Char}
    (h : ItemsSpelling items text) {bound : Nat} (enough : items.length < bound)
    (rest : List Char) :
    readItems reader bound false (text ++ rest) = .ok (results, ']' :: rest) := by
  induction taken generalizing text bound with
  | nil =>
    obtain ⟨bound, rfl⟩ := Nat.exists_eq_succ_of_ne_zero (Nat.ne_of_gt enough)
    cases h with
    | close gap =>
      rw [List.append_assoc, readItems, List.singleton_append, nextItem_close gap]
      rfl
  | cons head tail ih =>
    rw [List.length_cons] at enough
    obtain ⟨bound, rfl⟩ := Nat.exists_eq_succ_of_ne_zero (n := bound) (by omega)
    cases h with
    | next before gap this others =>
      have item := head .nil this (startsWithDigit_items others rest)
      rw [List.append_assoc, List.cons_append, List.append_assoc, readItems,
        nextItem_next before gap this]
      simp only [bind, Except.bind, pure, Except.pure]
      rw [List.nil_append] at item
      simp only [item, ih others (Nat.lt_of_succ_lt_succ enough)]

/-- A list is read item by item once its opening bracket has been taken. -/
theorem readList_open {gap : List Char} (hgap : IsGap gap) (text : List Char) :
    readList reader (gap ++ '[' :: text) =
      (readItems reader (text.length + 1) true text).bind fun read =>
        (closeList read.2).bind fun rest => .ok (read.1, rest) := by
  rw [readList, skipGap_append hgap, skipGap_cons rfl]
  rfl

/-- A list is read when its items are. -/
theorem Reads.list {items : List Value} {results : List α}
    (taken : List.Forall₂ (Reads reader) items results) :
    Reads (readList reader) (.array items) results := by
  intro gap text rest hgap h _
  cases h with
  | emptyArray inner =>
    cases taken
    rw [List.append_assoc, List.cons_append, readList_open hgap, List.append_assoc, readItems,
      List.singleton_append, nextItem_close inner]
    rfl
  | array inner first others =>
    cases taken with
    | cons head tail =>
      have enough := length_lt_of_itemsSpelling others
      have item := head .nil first (startsWithDigit_items others rest)
      rw [List.nil_append] at item
      rw [List.append_assoc, List.cons_append, readList_open hgap, List.append_assoc, readItems,
        nextItem_first inner first]
      simp only [bind, Except.bind, item]
      rw [readItems_next tail others (by simp only [List.length_append]; omega)]
      rfl

end Lists

/-! ## Records -/

/-- The reader moves to the first member and takes the quote that opens its key. -/
theorem nextMember_first {gap : List Char} (hgap : IsGap gap) (rest : List Char) :
    nextMember true (gap ++ '"' :: rest) = .ok (true, rest) := by
  rw [nextMember, skipGap_append hgap, skipGap_cons rfl]
  rfl

/-- The reader moves behind a comma to the next member. -/
theorem nextMember_next {before gap : List Char} (hbefore : IsGap before) (hgap : IsGap gap)
    (rest : List Char) :
    nextMember false (before ++ ',' :: (gap ++ '"' :: rest)) = .ok (true, rest) := by
  have skipped : skipGap (gap ++ '"' :: rest) = '"' :: rest := by
    rw [skipGap_append hgap, skipGap_cons rfl]
  rw [nextMember, skipGap_append hbefore, skipGap_cons rfl]
  split
  · next h => simp at h
  · next h => simp at h
  · next h =>
    obtain ⟨rfl, rfl⟩ := List.cons.inj h
    rw [if_neg Bool.false_ne_true, if_pos rfl, skipped]
    rfl

/-- The reader stops before the closing brace. -/
theorem nextMember_close {gap : List Char} (hgap : IsGap gap) (first : Bool) (rest : List Char) :
    nextMember first (gap ++ '\x7d' :: rest) = .ok (false, '\x7d' :: rest) := by
  rw [nextMember, skipGap_append hgap, skipGap_cons rfl]
  rfl

theorem readColon_append {gap : List Char} (hgap : IsGap gap) (rest : List Char) :
    readColon (gap ++ ':' :: rest) = .ok rest := by
  rw [readColon, skipGap_append hgap, skipGap_cons rfl]
  rfl

theorem exists_cons_of_memberSpelling {member : String × Value} {text : List Char}
    (h : MemberSpelling member text) : ∃ others, text = '"' :: others := by
  cases h with
  | mk => exact ⟨_, rfl⟩

/-- What follows a member goes on with no digit. -/
theorem startsWithDigit_members {members : List (String × Value)} {text : List Char}
    (h : MembersSpelling members text) (rest : List Char) :
    startsWithDigit (text ++ rest) = false := by
  cases h with
  | close gap =>
    rw [List.append_assoc]
    exact startsWithDigit_gap_cons gap rfl rest
  | next before =>
    rw [List.append_assoc]
    exact startsWithDigit_gap_cons before rfl _

theorem length_lt_of_membersSpelling {members : List (String × Value)} {text : List Char}
    (h : MembersSpelling members text) : members.length < text.length := by
  induction members generalizing text with
  | nil =>
    cases h with
    | close gap => simp
  | cons member members ih =>
    cases h with
    | next before gap this others =>
      have := ih others
      simp only [List.length_cons, List.length_append]
      omega

namespace Record

variable {Draft α : Type} {record : Record Draft α}

/-- Members fill a draft one after another: each names a field that is still empty, and that field
reads the value of the member into the draft. -/
inductive Fills (record : Record Draft α) : Draft → List (String × Value) → Draft → Prop
  | nil {draft : Draft} : Fills record draft [] draft
  | cons {draft next last : Draft} {key : String} {value : Value} {field : Field Draft}
    {members : List (String × Value)} :
    record.fields.find? (·.name == key) = some field → field.filled draft = false →
    Reads (field.read draft) value next → Fills record next members last →
    Fills record draft ((key, value) :: members) last

/-- One member is read once the reader has moved to it. -/
theorem readMembers_member {draft next : Draft} {key : String} {value : Value}
    {field : Field Draft} (found : record.fields.find? (·.name == key) = some field)
    (empty : field.filled draft = false) (taken : Reads (field.read draft) value next)
    {this : List Char} (h : MemberSpelling (key, value) ('"' :: this)) {rest : List Char}
    (noDigit : startsWithDigit rest = false) {first : Bool} {chars : List Char}
    (moved : nextMember first chars = .ok (true, this ++ rest)) (bound : Nat) :
    record.readMembers (bound + 1) first draft chars =
      record.readMembers bound false next rest := by
  cases h with
  | mk name before gap spelled =>
    have value := taken gap spelled noDigit
    rw [readMembers, moved]
    simp only [placed, bind, Except.bind, List.append_assoc, readTextBody_append name, found, empty,
      Bool.false_eq_true, if_false, List.cons_append, readColon_append before]
    rw [← List.append_assoc, value]

/-- The members after the first are read up to the closing brace. -/
theorem readMembers_next {draft last : Draft} {members : List (String × Value)}
    (filled : record.Fills draft members last) {text : List Char}
    (h : MembersSpelling members text) {bound : Nat} (enough : members.length < bound)
    (rest : List Char) :
    record.readMembers bound false draft (text ++ rest) = .ok (last, '\x7d' :: rest) := by
  induction filled generalizing text bound with
  | nil =>
    obtain ⟨bound, rfl⟩ := Nat.exists_eq_succ_of_ne_zero (Nat.ne_of_gt enough)
    cases h with
    | close gap =>
      rw [List.append_assoc, readMembers, List.singleton_append, nextMember_close gap]
      rfl
  | cons found empty taken _ ih =>
    rw [List.length_cons] at enough
    obtain ⟨bound, rfl⟩ := Nat.exists_eq_succ_of_ne_zero (n := bound) (by omega)
    cases h with
    | next before gap this others =>
      obtain ⟨tail, rfl⟩ := exists_cons_of_memberSpelling this
      rw [List.append_assoc, List.cons_append, List.append_assoc, List.append_assoc,
        List.cons_append,
        readMembers_member found empty taken this (startsWithDigit_members others rest)
          (nextMember_next before gap _),
        ih others (Nat.lt_of_succ_lt_succ enough)]

/-- An object is read member by member once its opening brace has been taken. -/
theorem read_open {gap : List Char} (hgap : IsGap gap) (text : List Char) :
    record.read (gap ++ '\x7b' :: text) =
      settle '\x7d' closeObject
        ((record.readMembers (text.length + 1) true record.blank text).bind fun read =>
          record.complete read.1 read.2) := by
  rw [read, skipGap_append hgap, skipGap_cons rfl]
  rfl

/-- A record is read from an object whose members fill a draft that makes the record. -/
theorem reads_of_fills {members : List (String × Value)} {last : Draft} {value : α}
    (filled : record.Fills record.blank members last) (finished : record.finish last = .ok value) :
    Reads record.read (.object members) value := by
  intro gap text rest hgap h _
  have settled : settle '\x7d' closeObject (record.complete last ('\x7d' :: rest)) =
      .ok (value, rest) := by
    rw [complete, finished]
    rfl
  cases h with
  | emptyObject inner =>
    cases filled
    rw [List.append_assoc, List.cons_append, read_open hgap, List.append_assoc, readMembers,
      List.singleton_append, nextMember_close inner]
    exact settled
  | object inner first others =>
    cases filled with
    | cons found empty taken filled =>
      have enough := length_lt_of_membersSpelling others
      obtain ⟨tail, rfl⟩ := exists_cons_of_memberSpelling first
      rw [List.append_assoc, List.cons_append, read_open hgap, List.append_assoc,
        List.append_assoc, List.cons_append,
        readMembers_member found empty taken first (startsWithDigit_members others rest)
          (nextMember_first inner _),
        readMembers_next filled others (by simp only [List.length_append, List.length_cons]; omega)]
      exact settled

end Record

/-! ## Documents -/

/-- A document is read to its end. -/
theorem readDocument_of_reads {α : Type} {reader : Reader α} {value : Value} {result : α}
    (taken : Reads reader value result) {text : String} (h : DocumentSpelling value text.toList) :
    readDocument reader text = .ok result := by
  generalize spelled : text.toList = chars at h
  cases h with
  | mk before this after =>
    simp only [readDocument, spelled, bind, Except.bind,
      taken before this (startsWithDigit_gap after), skipGap_gap after, pure, Except.pure]

end Preflight.Json
