import Mathlib.Data.List.Infix
import Preflight.Text.Digit

/-!
Texts that are written in lines, each of them ended by a line break.

The line breaks of a text cut it into lines again, and into those that were written as long as none
of them holds a line break of its own. How a text ends is told by whole lines: a line break stands
in front of the first, so nothing that comes before can be taken for a part of it.
-/

namespace Preflight.Text

/-! ## Single lines -/

/-- Whether a text holds no line break. -/
def OneLine (text : String) : Prop := '\n' ∉ text.toList

instance : DecidablePred OneLine := fun text =>
  inferInstanceAs (Decidable ('\n' ∉ text.toList))

theorem oneLine_ofList {chars : List Char} (free : '\n' ∉ chars) :
    OneLine (String.ofList chars) := by
  rwa [OneLine, String.toList_ofList]

theorem oneLine_append {front back : String} :
    OneLine (front ++ back) ↔ OneLine front ∧ OneLine back := by
  rw [OneLine, String.toList_append, List.mem_append, not_or]
  rfl

theorem oneLine_toString (number : Nat) : OneLine (toString number) :=
  notMem_toString (by decide) number

/-! ## Lines -/

/-- Lines one below the other, each of them ended. -/
def ofLines (lines : List String) : String := String.join (lines.map (· ++ "\n"))

/-- What stands between the line breaks of a text. Behind the last one there is one more line, which
is empty if the text ends in a line break. -/
def linesOf (text : String) : List (List Char) := text.toList.splitOn '\n'

theorem ofLines_append (lines others : List String) :
    ofLines (lines ++ others) = ofLines lines ++ ofLines others := by
  rw [ofLines, List.map_append, String.join_append]
  rfl

theorem toList_ofLines_cons (line : String) (lines : List String) :
    (ofLines (line :: lines)).toList = line.toList ++ '\n' :: (ofLines lines).toList := by
  simp [ofLines]

/-- The lines that are written are the lines of the text. -/
theorem linesOf_ofLines {lines : List String} (single : ∀ line ∈ lines, OneLine line) :
    linesOf (ofLines lines) = lines.map String.toList ++ [[]] := by
  induction lines with
  | nil => rfl
  | cons line lines ih =>
    obtain ⟨here, others⟩ := List.forall_mem_cons.1 single
    rw [linesOf, toList_ofLines_cons, List.splitOn_append_cons_self, List.splitOn_eq_singleton here]
    exact congrArg (line.toList :: ·) (ih others)

/-! ## The end of a text -/

/-- Whether a text ends in some lines, the first of which begins behind a line break. -/
def EndsIn (text : String) (lines : List String) : Prop :=
  ∃ front, text = front ++ "\n" ++ ofLines lines

theorem endsIn_ofLines (before : List String) (line : String) (lines : List String) :
    EndsIn (ofLines (before ++ line :: lines)) lines := by
  refine ⟨ofLines before ++ line, ?_⟩
  rw [ofLines_append, String.append_assoc, String.append_assoc]
  congr 1
  rw [← String.append_assoc]
  exact String.join_cons

/-- Of two ways in which one text ends, the one with fewer lines is the end of the other. -/
theorem EndsIn.eq_drop {text : String} {lines others : List String} (ends : EndsIn text lines)
    (ends' : EndsIn text others) (single : ∀ line ∈ lines, OneLine line)
    (single' : ∀ line ∈ others, OneLine line) (fewer : lines.length ≤ others.length) :
    lines = others.drop (others.length - lines.length) := by
  have last {lines : List String} (ends : EndsIn text lines)
      (single : ∀ line ∈ lines, OneLine line) :
      lines.map String.toList ++ [[]] <:+ linesOf text := by
    obtain ⟨front, rfl⟩ := ends
    have parts : (front ++ "\n" ++ ofLines lines).toList =
        front.toList ++ '\n' :: (ofLines lines).toList := by simp
    rw [linesOf, parts, List.splitOn_append_cons_self]
    exact ⟨_, congrArg _ (linesOf_ofLines single).symm⟩
  have within := List.suffix_of_suffix_length_le (last ends single) (last ends' single')
    (by simpa using fewer)
  rw [List.suffix_iff_eq_drop] at within
  simp only [List.length_append, List.length_map, List.length_singleton,
    Nat.add_sub_add_right] at within
  rw [List.drop_append_of_le_length (by rw [List.length_map]; omega), ← List.map_drop] at within
  have same := List.append_cancel_right within
  exact List.map_injective_iff.2 (fun _ _ => String.toList_inj.1) same

end Preflight.Text
