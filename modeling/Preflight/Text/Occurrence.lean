/-!
Occurrences of one text inside another, anywhere, case and characters exactly as written.
-/

namespace Preflight.Text

/-- Whether `needle` stands somewhere in the text; the empty one stands in every text. -/
def occursIn (needle : List Char) : List Char → Bool
  | [] => needle.isEmpty
  | c :: rest => needle.isPrefixOf (c :: rest) || occursIn needle rest

def contains (text needle : String) : Bool :=
  occursIn needle.toList text.toList

def beginsWith (text start : String) : Bool :=
  start.toList.isPrefixOf text.toList

theorem occursIn_iff {needle text : List Char} :
    occursIn needle text = true ↔ needle <:+: text := by
  induction text with
  | nil => simp [occursIn, List.isEmpty_iff]
  | cons c rest ih =>
      rw [occursIn, Bool.or_eq_true, List.isPrefixOf_iff_prefix, ih, List.infix_cons_iff]

theorem contains_iff {text needle : String} :
    contains text needle = true ↔ needle.toList <:+: text.toList :=
  occursIn_iff

theorem beginsWith_iff {text start : String} :
    beginsWith text start = true ↔ start.toList <+: text.toList :=
  List.isPrefixOf_iff_prefix

end Preflight.Text
