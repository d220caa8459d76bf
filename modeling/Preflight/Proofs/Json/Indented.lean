import Mathlib.Tactic.SplitIfs
import Preflight.Proofs.Json.Grammar

/-!
The indented text of a value is one of the texts that spell it.
-/

namespace Preflight.Json

/-! ## Texts -/

/-- The number of a control character has two hexadecimal digits, and two zeros in front. -/
theorem unitsSpelling_control {c : Char} (control : c.toNat < 0x20) :
    UnitsSpelling (codeUnits c)
      ['\\', 'u', '0', '0', lowerHexDigit (c.toNat / 16), lowerHexDigit (c.toNat % 16)] := by
  have zero : IsHexDigit 0 '0' := .inl rfl
  rw [codeUnits, if_pos (by omega)]
  refine .cons ?_ ?_ ?_ (.inl rfl) .nil
  · rwa [Nat.div_eq_of_lt (by omega)]
  · rwa [Nat.div_eq_of_lt (by omega)]
  · rw [Nat.mod_eq_of_lt (by omega)]
    exact .inl rfl

/-- What is written for a character spells it. -/
theorem charSpelling_escapedChar (c : Char) : CharSpelling c (escapedChar c) := by
  unfold escapedChar
  split_ifs with quote backslash b f n r t control
  all_goals try (subst_vars; exact .short (by decide))
  · exact .units (unitsSpelling_control control)
  · exact .raw (by omega) quote backslash

theorem charsSpelling_escapedChar (cs : List Char) :
    CharsSpelling cs (cs.flatMap escapedChar ++ ['"']) := by
  induction cs with
  | nil => exact .close
  | cons c cs ih =>
    rw [List.flatMap_cons, List.append_assoc]
    exact .cons (charSpelling_escapedChar c) ih

/-- A literal is a quote and a text spelled up to its closing quote. -/
theorem toList_literal (text : String) :
    (literal text).toList = '"' :: (text.toList.flatMap escapedChar ++ ['"']) := by
  rw [literal, String.toList_ofList, List.cons_append]

/-! ## Values -/

/-- The characters of some pieces. -/
def charsOf (pieces : List String) : List Char := pieces.flatMap String.toList

@[simp] theorem charsOf_nil : charsOf [] = [] := rfl

@[simp] theorem charsOf_cons (piece : String) (pieces : List String) :
    charsOf (piece :: pieces) = piece.toList ++ charsOf pieces := rfl

@[simp] theorem charsOf_append (front back : List String) :
    charsOf (front ++ back) = charsOf front ++ charsOf back := List.flatMap_append

theorem itemsSpelling_pieces {items : List Value} {level : Nat} (last : Nat)
    (spelled : ∀ item ∈ items, Spelling item (charsOf (item.pieces level))) :
    ItemsSpelling items (charsOf (Value.itemPieces level items ++ [newLine last, "]"])) := by
  induction items with
  | nil => simpa [Value.itemPieces] using .close (isGap_newLine last)
  | cons item items ih =>
    obtain ⟨first, others⟩ := List.forall_mem_cons.1 spelled
    have next := ItemsSpelling.next .nil (isGap_newLine level) first (ih others)
    simpa [Value.itemPieces] using next

theorem memberSpelling_pieces (key : String) {value : Value} {level : Nat}
    (spelled : Spelling value (charsOf (value.pieces level))) :
    MemberSpelling (key, value) (charsOf (literal key :: ": " :: value.pieces level)) := by
  have member := MemberSpelling.mk (charsSpelling_escapedChar key.toList) .nil
    (.singleton (.inl rfl)) spelled
  simpa [toList_literal] using member

theorem membersSpelling_pieces {members : List (String × Value)} {level : Nat} (last : Nat)
    (spelled : ∀ member ∈ members, Spelling member.2 (charsOf (member.2.pieces level))) :
    MembersSpelling members
      (charsOf (Value.memberPieces level members ++ [newLine last, "\x7d"])) := by
  induction members with
  | nil => simpa [Value.memberPieces] using .close (isGap_newLine last)
  | cons member members ih =>
    obtain ⟨key, value⟩ := member
    obtain ⟨first, others⟩ := List.forall_mem_cons.1 spelled
    have next := MembersSpelling.next .nil (isGap_newLine level)
      (memberSpelling_pieces key first) (ih others)
    simpa [Value.memberPieces] using next

/-- The pieces of a value spell it, on whichever level they are indented. -/
theorem spelling_pieces (value : Value) (level : Nat) :
    Spelling value (charsOf (value.pieces level)) := by
  induction value using Value.induction generalizing level with
  | null => exact .null
  | boolean value =>
    cases value with
    | true => exact .true
    | false => exact .false
  | number value =>
    simpa [Value.pieces, Nat.toList_repr] using .number
  | text text =>
    simpa [Value.pieces, toList_literal] using .text (charsSpelling_escapedChar text.toList)
  | array items spelled =>
    cases items with
    | nil => exact .emptyArray .nil
    | cons item items =>
      obtain ⟨first, others⟩ := List.forall_mem_cons.1 spelled
      have array := Spelling.array (isGap_newLine (level + 1)) (first (level + 1))
        (itemsSpelling_pieces level fun item h => others item h (level + 1))
      simpa [Value.pieces] using array
  | object members spelled =>
    cases members with
    | nil => exact .emptyObject .nil
    | cons member members =>
      obtain ⟨key, value⟩ := member
      obtain ⟨first, others⟩ := List.forall_mem_cons.1 spelled
      have object := Spelling.object (isGap_newLine (level + 1))
        (memberSpelling_pieces key (first (level + 1)))
        (membersSpelling_pieces level fun member h => others member h (level + 1))
      simpa [Value.pieces] using object

/-- The indented text of a value spells it. -/
theorem spelling_indented (value : Value) : Spelling value value.indented.toList := by
  rw [Value.indented, String.toList_join]
  exact spelling_pieces value 0

end Preflight.Json
