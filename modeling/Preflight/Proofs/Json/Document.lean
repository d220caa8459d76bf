import Mathlib.Data.List.Forall2
import Preflight.Proofs.Json.Reading

/-!
Reading a document whose type is not known beforehand, as the value it holds.

The reader takes every spelling of every value. So a document holds one value: whatever the grammar
lets a text spell, it spells nothing else.
-/

namespace Preflight.Json

/-! ## The reader -/

/-- Read the digits of a whole number. -/
def readWhole : Reader Nat := fun chars =>
  match Text.wholeNumber? (chars.takeWhile Char.isDigit) with
  | some value => .ok (value, chars.dropWhile Char.isDigit)
  | none => stopAfter .expectedValue chars

/-- Read at most so many members of an object, up to the closing brace. -/
def readMembers (value : Reader Value) : Nat → Bool → Reader (List (String × Value))
  | 0, _, rest => stopBefore .endOfObject rest
  | members + 1, first, chars => do
      match ← nextMember first chars with
      | (false, rest) => return ([], rest)
      | (true, rest) =>
          let (key, rest) ← readTextBody rest
          let rest ← readColon rest
          let (head, rest) ← value rest
          let (tail, rest) ← readMembers value members false rest
          return ((key, head) :: tail, rest)

/-- Read an object whose members have some type of value. -/
def readObject (value : Reader Value) : Reader (List (String × Value)) := fun chars =>
  match skipGap chars with
  | '\x7b' :: rest => do
      let (members, rest) ← readMembers value (rest.length + 1) true rest
      let rest ← closeObject rest
      return (members, rest)
  | rest => stopAfter .expectedValue rest

/-- Read a value in which arrays and objects are nested less deep than a bound. -/
def readValue : Nat → Reader Value
  | 0, rest => stopBefore .endOfValue rest
  | depth + 1, chars =>
      match skipGap chars with
      | 'n' :: rest => (readWord ['u', 'l', 'l'] rest).map (.null, ·)
      | 't' :: rest => (readWord ['r', 'u', 'e'] rest).map (.boolean true, ·)
      | 'f' :: rest => (readWord ['a', 'l', 's', 'e'] rest).map (.boolean false, ·)
      | '"' :: rest => (readTextBody rest).map fun (text, rest) => (.text text, rest)
      | '[' :: rest =>
          (readList (readValue depth) ('[' :: rest)).map fun (items, rest) => (.array items, rest)
      | '\x7b' :: rest =>
          (readObject (readValue depth) ('\x7b' :: rest)).map fun (members, rest) =>
            (.object members, rest)
      | rest => (readWhole rest).map fun (value, rest) => (.number value, rest)

/-- The value that a document holds. Every level of nesting takes a character, so the depth is
bounded by the length of the text. -/
def Value.ofDocument (text : String) : Except Error Value :=
  readDocument (readValue text.length) text

/-! ## Numbers -/

theorem readWhole_toDigits (n : Nat) {rest : List Char} (noDigit : startsWithDigit rest = false) :
    readWhole (Nat.toDigits 10 n ++ rest) = .ok (n, rest) := by
  have digits : ∀ c ∈ Nat.toDigits 10 n, c.isDigit = true := fun c hc =>
    Nat.isDigit_of_mem_toDigits (by decide) (by decide) hc
  have stop : rest.takeWhile Char.isDigit = [] ∧ rest.dropWhile Char.isDigit = rest := by
    cases rest with
    | nil => exact ⟨rfl, rfl⟩
    | cons c rest =>
      have noDigit : c.isDigit = false := noDigit
      simp [noDigit]
  rw [readWhole, List.takeWhile_append_of_pos digits, List.dropWhile_append_of_pos digits, stop.1,
    stop.2, List.append_nil, Text.wholeNumber?_toDigits]

/-! ## Objects -/

theorem readMembers_member {reader : Reader Value} {key : String} {value : Value}
    (taken : Reads reader value value) {this : List Char}
    (h : MemberSpelling (key, value) ('"' :: this)) {rest : List Char}
    (noDigit : startsWithDigit rest = false) {first : Bool} {chars : List Char}
    (moved : nextMember first chars = .ok (true, this ++ rest)) (bound : Nat) :
    readMembers reader (bound + 1) first chars =
      (readMembers reader bound false rest).map fun read => ((key, value) :: read.1, read.2) := by
  cases h with
  | mk name before gap spelled =>
    have read := taken gap spelled noDigit
    rw [readMembers, moved]
    simp only [bind, Except.bind, List.append_assoc, readTextBody_append name, List.cons_append,
      readColon_append before]
    rw [← List.append_assoc, read]
    dsimp only
    cases readMembers reader bound false rest <;> rfl

theorem readMembers_next {reader : Reader Value} {members : List (String × Value)}
    (taken : ∀ member ∈ members, Reads reader member.2 member.2) {text : List Char}
    (h : MembersSpelling members text) {bound : Nat} (enough : members.length < bound)
    (rest : List Char) :
    readMembers reader bound false (text ++ rest) = .ok (members, '\x7d' :: rest) := by
  induction members generalizing text bound with
  | nil =>
    obtain ⟨bound, rfl⟩ := Nat.exists_eq_succ_of_ne_zero (Nat.ne_of_gt enough)
    cases h with
    | close gap =>
      rw [List.append_assoc, readMembers, List.singleton_append, nextMember_close gap]
      rfl
  | cons member members ih =>
    obtain ⟨key, value⟩ := member
    rw [List.length_cons] at enough
    obtain ⟨bound, rfl⟩ := Nat.exists_eq_succ_of_ne_zero (n := bound) (by omega)
    obtain ⟨head, tail⟩ := List.forall_mem_cons.1 taken
    cases h with
    | next before gap this others =>
      obtain ⟨name, rfl⟩ := exists_cons_of_memberSpelling this
      rw [List.append_assoc, List.cons_append, List.append_assoc, List.append_assoc,
        List.cons_append,
        readMembers_member head this (startsWithDigit_members others rest)
          (nextMember_next before gap _),
        ih tail others (Nat.lt_of_succ_lt_succ enough)]
      rfl

theorem readObject_open {reader : Reader Value} {gap : List Char} (hgap : IsGap gap)
    (text : List Char) :
    readObject reader (gap ++ '\x7b' :: text) =
      (readMembers reader (text.length + 1) true text).bind fun read =>
        (closeObject read.2).bind fun rest => .ok (read.1, rest) := by
  rw [readObject, skipGap_append hgap, skipGap_cons rfl]
  rfl

/-- An object is read when the values of its members are. -/
theorem readObject_append {reader : Reader Value} {members : List (String × Value)}
    (taken : ∀ member ∈ members, Reads reader member.2 member.2) {text : List Char}
    (h : Spelling (.object members) text) (rest : List Char) :
    readObject reader (text ++ rest) = .ok (members, rest) := by
  cases h with
  | emptyObject inner =>
    rw [List.cons_append, ← List.nil_append ('\x7b' :: _), readObject_open .nil,
      List.append_assoc, readMembers, List.singleton_append, nextMember_close inner]
    rfl
  | @object member members _ _ others inner first spelled =>
    obtain ⟨key, value⟩ := member
    obtain ⟨head, tail⟩ := List.forall_mem_cons.1 taken
    have enough := length_lt_of_membersSpelling spelled
    obtain ⟨name, rfl⟩ := exists_cons_of_memberSpelling first
    rw [List.cons_append, ← List.nil_append ('\x7b' :: _), readObject_open .nil,
      List.append_assoc, List.append_assoc, List.cons_append,
      readMembers_member head first (startsWithDigit_members spelled rest)
        (nextMember_first inner _),
      readMembers_next tail spelled (by simp only [List.length_append, List.length_cons]; omega)]
    rfl

/-! ## Depth -/

namespace Value

mutual

/-- How deep arrays and objects are nested in a value. -/
def depth : Value → Nat
  | .array items => itemsDepth items + 1
  | .object members => membersDepth members + 1
  | _ => 0

/-- How deep the deepest of some items is. -/
def itemsDepth : List Value → Nat
  | [] => 0
  | item :: items => max (depth item) (itemsDepth items)

/-- How deep the deepest of some members is. -/
def membersDepth : List (String × Value) → Nat
  | [] => 0
  | (_, value) :: members => max (depth value) (membersDepth members)

end

theorem depth_le_of_mem_items {items : List Value} {item : Value} (h : item ∈ items) :
    item.depth ≤ itemsDepth items := by
  induction items with
  | nil => cases h
  | cons first items ih =>
    rw [itemsDepth]
    rcases List.mem_cons.1 h with rfl | h
    · exact Nat.le_max_left _ _
    · exact Nat.le_trans (ih h) (Nat.le_max_right _ _)

theorem depth_le_of_mem_members {members : List (String × Value)} {member : String × Value}
    (h : member ∈ members) : member.2.depth ≤ membersDepth members := by
  induction members with
  | nil => cases h
  | cons first members ih =>
    obtain ⟨key, value⟩ := first
    rw [membersDepth]
    rcases List.mem_cons.1 h with rfl | h
    · exact Nat.le_max_left _ _
    · exact Nat.le_trans (ih h) (Nat.le_max_right _ _)

end Value

theorem itemsDepth_lt_of_itemsSpelling {items : List Value}
    (each : ∀ item ∈ items, ∀ ⦃text⦄, Spelling item text → item.depth < text.length)
    {text : List Char} (h : ItemsSpelling items text) : Value.itemsDepth items < text.length := by
  induction items generalizing text with
  | nil =>
    cases h with
    | close gap => simp [Value.itemsDepth]
  | cons item items ih =>
    obtain ⟨head, tail⟩ := List.forall_mem_cons.1 each
    cases h with
    | next before gap this others =>
      have first := head this
      have rest := ih tail others
      simp only [Value.itemsDepth, List.length_append, List.length_cons]
      omega

theorem membersDepth_lt_of_membersSpelling {members : List (String × Value)}
    (each : ∀ member ∈ members, ∀ ⦃text⦄, Spelling member.2 text → member.2.depth < text.length)
    {text : List Char} (h : MembersSpelling members text) :
    Value.membersDepth members < text.length := by
  induction members generalizing text with
  | nil =>
    cases h with
    | close gap => simp [Value.membersDepth]
  | cons member members ih =>
    obtain ⟨head, tail⟩ := List.forall_mem_cons.1 each
    cases h with
    | next before gap this others =>
      have rest := ih tail others
      cases this with
      | mk name colon inner spelled =>
        have first := head spelled
        simp only [Value.membersDepth, List.length_append, List.length_cons] at first ⊢
        omega

/-- Every level of nesting takes a character. -/
theorem depth_lt_of_spelling (value : Value) :
    ∀ ⦃text⦄, Spelling value text → value.depth < text.length := by
  induction value using Value.induction with
  | array items each =>
    intro text h
    cases h with
    | emptyArray gap => simp [Value.depth, Value.itemsDepth]
    | array gap first others =>
      obtain ⟨head, tail⟩ := List.forall_mem_cons.1 each
      have first := head first
      have rest := itemsDepth_lt_of_itemsSpelling tail others
      simp only [Value.depth, Value.itemsDepth, List.length_append, List.length_cons]
      omega
  | object members each =>
    intro text h
    cases h with
    | emptyObject gap => simp [Value.depth, Value.membersDepth]
    | object gap first others =>
      obtain ⟨head, tail⟩ := List.forall_mem_cons.1 each
      have rest := membersDepth_lt_of_membersSpelling tail others
      cases first with
      | mk name colon inner spelled =>
        have first := head spelled
        simp only [Value.depth, Value.membersDepth, List.length_append, List.length_cons] at first ⊢
        omega
  | _ =>
    intro text h
    obtain ⟨c, others, rfl, -, -⟩ := exists_cons_of_spelling h
    exact Nat.succ_pos _

/-! ## Values -/

/-- A value that begins with a digit is a number. -/
theorem readValue_digit {c : Char} (digit : c.isDigit = true) {gap : List Char} (hgap : IsGap gap)
    (depth : Nat) (rest : List Char) :
    readValue (depth + 1) (gap ++ c :: rest) =
      (readWhole (c :: rest)).map fun read => (.number read.1, read.2) := by
  have noGap : isGap c = false := by
    rw [Bool.eq_false_iff]
    intro h
    rcases isGap_iff.1 h with rfl | rfl | rfl | rfl <;> cases digit
  rw [readValue, skipGap_append hgap, skipGap_cons noGap]
  split
  case h_7 => rfl
  all_goals
    next h =>
      obtain ⟨rfl, -⟩ := List.cons.inj h
      cases digit

/-- The reader takes every spelling of every value that is not too deep for it. -/
theorem reads_value (value : Value) :
    ∀ ⦃depth : Nat⦄, value.depth < depth → Reads (readValue depth) value value := by
  induction value using Value.induction with
  | array items each =>
    intro depth enough
    obtain ⟨depth, rfl⟩ := Nat.exists_eq_succ_of_ne_zero (Nat.ne_zero_of_lt enough)
    rw [Value.depth] at enough
    have taken : List.Forall₂ (Reads (readValue depth)) items items :=
      List.forall₂_same.2 fun item hitem =>
        each item hitem
          (Nat.lt_of_le_of_lt (Value.depth_le_of_mem_items hitem) (Nat.lt_of_succ_lt_succ enough))
    intro gap text rest hgap h noDigit
    have read := Reads.list taken .nil h noDigit
    rw [List.nil_append] at read
    obtain ⟨inner, rfl⟩ : ∃ inner, text = '[' :: inner := by cases h <;> exact ⟨_, rfl⟩
    rw [List.cons_append] at read
    rw [List.append_assoc, List.cons_append, readValue, skipGap_append hgap, skipGap_cons rfl]
    simp only [read]
    rfl
  | object members each =>
    intro depth enough
    obtain ⟨depth, rfl⟩ := Nat.exists_eq_succ_of_ne_zero (Nat.ne_zero_of_lt enough)
    rw [Value.depth] at enough
    have taken : ∀ member ∈ members, Reads (readValue depth) member.2 member.2 :=
      fun member hmember =>
        each member hmember
          (Nat.lt_of_le_of_lt (Value.depth_le_of_mem_members hmember)
            (Nat.lt_of_succ_lt_succ enough))
    intro gap text rest hgap h _
    have read := readObject_append taken h rest
    obtain ⟨inner, rfl⟩ : ∃ inner, text = '\x7b' :: inner := by cases h <;> exact ⟨_, rfl⟩
    rw [List.cons_append] at read
    rw [List.append_assoc, List.cons_append, readValue, skipGap_append hgap, skipGap_cons rfl]
    simp only [read]
    rfl
  | number n =>
    intro depth enough gap text rest hgap h noDigit
    obtain ⟨depth, rfl⟩ := Nat.exists_eq_succ_of_ne_zero (Nat.ne_zero_of_lt enough)
    cases h with
    | number =>
      have read := readWhole_toDigits n noDigit
      obtain ⟨c, digits, spelled⟩ :=
        List.exists_cons_of_ne_nil (Nat.toDigits_ne_nil (n := n) (b := 10))
      have digit : c.isDigit = true := Nat.isDigit_of_mem_toDigits (by decide) (by decide)
        (spelled ▸ List.mem_cons_self)
      rw [spelled, List.cons_append] at read
      rw [spelled, List.append_assoc, List.cons_append, readValue_digit digit hgap, read]
      rfl
  | text value =>
    intro depth enough gap text rest hgap h _
    obtain ⟨depth, rfl⟩ := Nat.exists_eq_succ_of_ne_zero (Nat.ne_zero_of_lt enough)
    cases h with
    | text body =>
      rw [List.append_assoc, List.cons_append, readValue, skipGap_append hgap, skipGap_cons rfl]
      simp only [readTextBody_append body]
      rfl
  | _ =>
    intro depth enough gap text rest hgap h _
    obtain ⟨depth, rfl⟩ := Nat.exists_eq_succ_of_ne_zero (Nat.ne_zero_of_lt enough)
    rw [List.append_assoc, readValue, skipGap_append hgap]
    cases h <;> rfl

/-! ## Documents -/

/-- Every document that holds a value is read as that value. -/
theorem ofDocument_of_spelling {value : Value} {text : String}
    (h : DocumentSpelling value text.toList) : Value.ofDocument text = .ok value := by
  -- Gaps in front and behind only make the text longer.
  have enough : value.depth < text.length := by
    generalize spelled : text.toList = chars at h
    cases h with
    | mk before this after =>
      have := depth_lt_of_spelling value this
      rw [← String.length_toList, spelled, List.length_append, List.length_append]
      omega
  exact readDocument_of_reads (reads_value value enough) h

/-- A text spells one value at most. -/
theorem Spelling.unique {value other : Value} {text : List Char} (h : Spelling value text)
    (h' : Spelling other text) : value = other := by
  have read {value : Value} (h : Spelling value text) :
      Value.ofDocument (String.ofList text) = .ok value := by
    refine ofDocument_of_spelling ?_
    have document := DocumentSpelling.mk .nil h .nil
    rwa [List.nil_append, List.append_nil, ← String.toList_ofList (l := text)] at document
  exact Except.ok.inj ((read h).symm.trans (read h'))

end Preflight.Json
