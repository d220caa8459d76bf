import Preflight.Proofs.Text.Utf8
import Preflight.Terminal.Plain
import Preflight.Terminal.Style
import Preflight.Text.Digit

/-!
Deleting the codes of styles from a text.

Deleting goes through a list once, from left to right, and passes over every occurrence of some
sequences. Sequences that begin with a mark and of which none begins another leave everything else
as it is, as long as the mark occurs nowhere else. `Coloured` relates a text with styles to the same
text without them; it has no way to open a style before the last one is closed.
-/

namespace Preflight.Terminal

/-! ## Deleting sequences -/

section Deleting

variable {α : Type} [DecidableEq α]

/-- What deleting leaves of a list whose first `inside` symbols belong to a sequence that has been
found already. -/
def deleteFrom (sequences : List (List α)) : Nat → List α → List α
  | _, [] => []
  | inside + 1, _ :: rest => deleteFrom sequences inside rest
  | 0, c :: rest =>
      match sequences.find? (·.isPrefixOf (c :: rest)) with
      | some found => deleteFrom sequences (found.length - 1) rest
      | none => c :: deleteFrom sequences 0 rest

/-- Delete every occurrence of some sequences from a list. -/
def delete (sequences : List (List α)) (list : List α) : List α :=
  deleteFrom sequences 0 list

/-- Sequences that begin with a mark, and none of which is the beginning of another. -/
structure Marked (mark : α) (sequences : List (List α)) : Prop where
  begins : ∀ found ∈ sequences, found.head? = some mark
  apart : ∀ found ∈ sequences, ∀ other ∈ sequences, found <+: other → found = other

variable {mark : α} {sequences : List (List α)}

theorem deleteFrom_append (front rest : List α) :
    deleteFrom sequences front.length (front ++ rest) = delete sequences rest := by
  induction front with
  | nil => rfl
  | cons c front ih => exact ih

/-- A sequence that is found is deleted. -/
theorem Marked.delete_append (marked : Marked mark sequences) {found : List α}
    (listed : found ∈ sequences) (rest : List α) :
    delete sequences (found ++ rest) = delete sequences rest := by
  obtain ⟨others, rfl⟩ := List.head?_eq_some_iff.1 (marked.begins found listed)
  have first : sequences.find? (·.isPrefixOf (mark :: (others ++ rest))) =
      some (mark :: others) := by
    have here : (mark :: others).isPrefixOf (mark :: (others ++ rest)) = true :=
      List.isPrefixOf_iff_prefix.2 (List.prefix_append (mark :: others) rest)
    cases search : sequences.find? (·.isPrefixOf (mark :: (others ++ rest))) with
    | none => exact absurd here (List.find?_eq_none.1 search _ listed)
    | some other =>
      have holds : other.isPrefixOf (mark :: (others ++ rest)) = true := by
        simpa only using List.find?_some search
      have there := List.isPrefixOf_iff_prefix.1 holds
      have also := List.mem_of_find?_eq_some search
      rcases List.prefix_or_prefix_of_prefix there (List.isPrefixOf_iff_prefix.1 here) with h | h
      · rw [marked.apart other also _ listed h]
      · rw [marked.apart _ listed other also h]
  rw [List.cons_append, delete, deleteFrom, first]
  exact deleteFrom_append others rest

/-- A symbol other than the mark is kept. -/
theorem Marked.delete_cons (marked : Marked mark sequences) {c : α} (ne : c ≠ mark)
    (rest : List α) : delete sequences (c :: rest) = c :: delete sequences rest := by
  have none : sequences.find? (·.isPrefixOf (c :: rest)) = none := by
    rw [List.find?_eq_none]
    intro found listed
    obtain ⟨others, rfl⟩ := List.head?_eq_some_iff.1 (marked.begins found listed)
    rw [List.isPrefixOf_iff_prefix, List.cons_prefix_cons]
    exact fun h => ne h.1.symm
  rw [delete, deleteFrom, none]
  rfl

/-- What holds no mark is kept as it is. -/
theorem Marked.delete_append_of_notMem (marked : Marked mark sequences) {front : List α}
    (unmarked : mark ∉ front) (rest : List α) :
    delete sequences (front ++ rest) = front ++ delete sequences rest := by
  induction front with
  | nil => rfl
  | cons c front ih =>
    rw [List.mem_cons, not_or] at unmarked
    rw [List.cons_append, marked.delete_cons (Ne.symm unmarked.1), ih unmarked.2, List.cons_append]

/-- Deleting adds nothing. -/
theorem length_delete_le (sequences : List (List α)) (list : List α) :
    (delete sequences list).length ≤ list.length := by
  have shorter (inside : Nat) : (deleteFrom sequences inside list).length ≤ list.length := by
    induction list generalizing inside with
    | nil => cases inside <;> exact Nat.le_refl 0
    | cons c rest ih =>
      cases inside with
      | succ inside => exact Nat.le_succ_of_le (ih inside)
      | zero =>
        rw [deleteFrom]
        split
        · exact Nat.le_succ_of_le (ih _)
        · exact Nat.succ_le_succ (ih 0)
  exact shorter 0

end Deleting

/-! ## Codes -/

/-- The codes that styles are opened and closed with. -/
def codes : List String :=
  ["\x1b[1m", "\x1b[2m", "\x1b[0m", "\x1b[31m", "\x1b[32m", "\x1b[33m", "\x1b[39m"]

/-- The styles of a report. -/
def Style.all : List Style := [.bold, .dimmed, .red, .green, .yellow]

theorem Style.codes_mem : ∀ style ∈ all, style.opening ∈ codes ∧ style.closing ∈ codes := by
  decide

/-- A text without its codes. -/
def deleteCodes (chars : List Char) : List Char :=
  delete (codes.map String.toList) chars

/-- The bytes of a text without those of its codes. -/
def deleteCodeBytes (bytes : List UInt8) : List UInt8 :=
  delete (codes.map Text.Utf8.encode) bytes

theorem marked_codes : Marked '\x1b' (codes.map String.toList) where
  begins := by decide
  apart := by decide

theorem marked_codeBytes : Marked 0x1b (codes.map Text.Utf8.encode) where
  begins := by decide
  apart := by decide

/-! ## Coloured texts -/

/-- Whether a text holds no escape character, with which every code begins. -/
def EscapeFree (text : String) : Prop := '\x1b' ∉ text.toList

/-- A literal is the text of its characters, which are quick to look through. -/
theorem escapeFree_ofList {chars : List Char} (unmarked : '\x1b' ∉ chars) :
    EscapeFree (String.ofList chars) := by
  rwa [EscapeFree, String.toList_ofList]

theorem escapeFree_append {front back : String} :
    EscapeFree (front ++ back) ↔ EscapeFree front ∧ EscapeFree back := by
  rw [EscapeFree, String.toList_append, List.mem_append, not_or]
  rfl

theorem escapeFree_toString (number : Nat) : EscapeFree (toString number) :=
  Text.notMem_toString (by decide) number

/-- A coloured text, and the text that is coloured. Outside of the styles there is no escape
character, and between the two codes of a style there is none either: a style that is opened is
closed before the next one is. -/
inductive Coloured : List Char → List Char → Prop where
  | nil : Coloured [] []
  | plain {text coloured bare : List Char} (unmarked : '\x1b' ∉ text)
      (rest : Coloured coloured bare) : Coloured (text ++ coloured) (text ++ bare)
  | styled {style : Style} {text coloured bare : List Char} (listed : style ∈ Style.all)
      (unmarked : '\x1b' ∉ text) (rest : Coloured coloured bare) :
      Coloured (style.opening.toList ++ (text ++ (style.closing.toList ++ coloured))) (text ++ bare)

variable {coloured bare : List Char}

/-- Nothing is left of the codes but what they colour. -/
theorem Coloured.deleteCodes_eq (colours : Coloured coloured bare) :
    deleteCodes coloured = bare := by
  induction colours with
  | nil => rfl
  | plain unmarked _ ih =>
    rw [deleteCodes, marked_codes.delete_append_of_notMem unmarked]
    exact congrArg _ ih
  | @styled style text coloured bare listed unmarked rest ih =>
    obtain ⟨opens, closes⟩ := Style.codes_mem style listed
    rw [deleteCodes, marked_codes.delete_append (List.mem_map_of_mem opens),
      marked_codes.delete_append_of_notMem unmarked,
      marked_codes.delete_append (List.mem_map_of_mem closes)]
    exact congrArg _ ih

/-- The byte that begins every code stands in a text only where the escape character does. -/
theorem escape_notMem_encode {text : List Char} (unmarked : '\x1b' ∉ text) :
    0x1b ∉ text.flatMap String.utf8EncodeChar := by
  intro there
  obtain ⟨c, listed, also⟩ := List.mem_flatMap.1 there
  have same := Text.Utf8.toNat_eq_of_mem_utf8EncodeChar also (by decide)
  rw [show c = '\x1b' from Char.toNat_inj.1 same] at listed
  exact unmarked listed

/-- The same for the bytes of a coloured text. -/
theorem Coloured.deleteCodeBytes_eq (colours : Coloured coloured bare) :
    deleteCodeBytes (coloured.flatMap String.utf8EncodeChar) =
      bare.flatMap String.utf8EncodeChar := by
  induction colours with
  | nil => rfl
  | plain unmarked _ ih =>
    rw [deleteCodeBytes, List.flatMap_append, List.flatMap_append,
      marked_codeBytes.delete_append_of_notMem (escape_notMem_encode unmarked)]
    exact congrArg _ ih
  | @styled style text coloured bare listed unmarked rest ih =>
    obtain ⟨opens, closes⟩ := Style.codes_mem style listed
    have encoded : (style.opening.toList ++ (text ++ (style.closing.toList ++ coloured))).flatMap
          String.utf8EncodeChar =
        Text.Utf8.encode style.opening ++ (text.flatMap String.utf8EncodeChar ++
          (Text.Utf8.encode style.closing ++ coloured.flatMap String.utf8EncodeChar)) := by
      simp only [List.flatMap_append, Text.Utf8.encode]
    rw [deleteCodeBytes, encoded, marked_codeBytes.delete_append (List.mem_map_of_mem opens),
      marked_codeBytes.delete_append_of_notMem (escape_notMem_encode unmarked),
      marked_codeBytes.delete_append (List.mem_map_of_mem closes), List.flatMap_append]
    exact congrArg _ ih

/-- What is coloured holds no escape character itself. -/
theorem Coloured.unmarked (colours : Coloured coloured bare) : '\x1b' ∉ bare := by
  induction colours with
  | nil => exact List.not_mem_nil
  | plain unmarked _ ih => exact List.mem_append.not.2 (not_or.2 ⟨unmarked, ih⟩)
  | styled _ unmarked _ ih => exact List.mem_append.not.2 (not_or.2 ⟨unmarked, ih⟩)

/-- A text without an escape character is coloured nowhere. -/
theorem coloured_self {text : List Char} (unmarked : '\x1b' ∉ text) : Coloured text text := by
  simpa using Coloured.plain unmarked .nil

/-! ## Spans -/

/-- Whether a span has a style of a report, if any, and a text without an escape character. -/
structure Span.Clean (span : Span) : Prop where
  style : ∀ style ∈ span.style, style ∈ Style.all
  text : EscapeFree span.text

/-- Clean spans are written as a coloured text. -/
theorem coloured_join {spans : List Span} (clean : ∀ span ∈ spans, span.Clean) :
    Coloured (String.join (spans.flatMap (·.pieces true))).toList
      (String.join (spans.flatMap (·.pieces false))).toList := by
  induction spans with
  | nil => exact .nil
  | cons span spans ih =>
    obtain ⟨⟨styles, unmarked⟩, others⟩ := List.forall_mem_cons.1 clean
    have rest := ih others
    obtain ⟨style, text⟩ := span
    simp only [String.toList_join] at rest
    cases style with
    | none =>
      simpa [Span.pieces, String.toList_join] using Coloured.plain unmarked rest
    | some style =>
      simpa [Span.pieces, String.toList_join] using Coloured.styled (styles style rfl) unmarked rest

/-! ## Codes of any style -/

/-- A code goes whole, whatever follows it. -/
theorem withoutCodes_code (number : Nat) (rest : List Char) :
    withoutCodes ((Style.code number).toList ++ rest) = withoutCodes rest := by
  have spelled : (Style.code number).toList ++ rest =
      '\x1b' :: '[' :: ((toString number).toList ++ 'm' :: rest) := by
    rw [Style.code, String.toList_append, String.toList_append, List.append_assoc]
    rfl
  have digits : ∀ c ∈ (toString number).toList, (c.isDigit || c == ';') = true :=
    fun c listed => Bool.or_eq_true_iff.2 (.inl (Text.isDigit_of_mem_toString listed))
  have numbers : ((toString number).toList ++ 'm' :: rest).takeWhile
      (fun c => c.isDigit || c == ';') = (toString number).toList := by
    rw [List.takeWhile_append_of_pos digits, List.takeWhile_cons_of_neg (by decide),
      List.append_nil]
  rw [spelled, withoutCodes]
  simp only [List.drop_succ_cons, List.drop_zero, List.head?_cons, List.getElem?_cons_succ]
  rw [numbers]
  simp

theorem withoutCodes_opening (style : Style) (rest : List Char) :
    withoutCodes (style.opening.toList ++ rest) = withoutCodes rest := by
  rw [Style.opening]
  induction style.opens with
  | nil => rfl
  | cons number numbers ih =>
    rw [List.map_cons, String.join_cons, String.toList_append, List.append_assoc,
      withoutCodes_code, ih]

/-- Without codes, spans are what they are without colour, whatever their styles. -/
theorem uncoloured_join {spans : List Span} (plain : ∀ span ∈ spans, EscapeFree span.text) :
    uncoloured (String.join (spans.flatMap (·.pieces true))) =
      String.join (spans.flatMap (·.pieces false)) := by
  have chars : withoutCodes (String.join (spans.flatMap (·.pieces true))).toList =
      (String.join (spans.flatMap (·.pieces false))).toList := by
    induction spans with
    | nil => exact withoutCodes_of_notMem List.not_mem_nil
    | cons span spans ih =>
      obtain ⟨unmarked, others⟩ := List.forall_mem_cons.1 plain
      have rest := ih others
      rw [List.flatMap_cons, List.flatMap_cons, Span.pieces_false, List.singleton_append,
        String.join_cons, String.toList_append, ← rest]
      obtain ⟨style, text⟩ := span
      cases style with
      | none =>
        rw [Span.pieces_plain, List.singleton_append, String.join_cons, String.toList_append]
        exact withoutCodes_append unmarked _
      | some style =>
        rw [Span.pieces_styled]
        simp only [List.cons_append, List.nil_append, String.join_cons, String.toList_append]
        rw [withoutCodes_opening, withoutCodes_append unmarked, Style.closing, withoutCodes_code]
  rw [uncoloured, chars, String.ofList_toList]

/-- Colour never makes a text shorter. -/
theorem length_encode_join_le (spans : List Span) :
    (Text.Utf8.encode (String.join (spans.flatMap (·.pieces false)))).length ≤
      (Text.Utf8.encode (String.join (spans.flatMap (·.pieces true)))).length := by
  simp only [Text.Utf8.encode_join, List.flatMap_assoc]
  induction spans with
  | nil => exact Nat.le_refl 0
  | cons span spans ih =>
    simp only [List.flatMap_cons, List.length_append]
    refine Nat.add_le_add ?_ ih
    rw [Span.pieces_false]
    obtain ⟨style, text⟩ := span
    cases style with
    | none => exact Nat.le_refl _
    | some style =>
      rw [Span.pieces_styled]
      simp only [List.flatMap_cons, List.flatMap_nil, List.append_nil, List.length_append]
      omega

end Preflight.Terminal
