/-!
Blank characters: the twenty-five code points with the Unicode property `White_Space`.

A path made of them names nothing, and they are what separates the word `import` from its target.
-/

namespace Preflight.Text

/-- Whether a code point lies in one of the ranges, ends included. -/
def inRanges (ranges : List (Nat × Nat)) (code : Nat) : Bool :=
  ranges.any fun range => range.1 ≤ code && code ≤ range.2

/-- The ranges of `White_Space`, in order. -/
def blankRanges : List (Nat × Nat) :=
  [(0x09, 0x0D), (0x20, 0x20), (0x85, 0x85), (0xA0, 0xA0), (0x1680, 0x1680), (0x2000, 0x200A),
    (0x2028, 0x2029), (0x202F, 0x202F), (0x205F, 0x205F), (0x3000, 0x3000)]

/-- Whether a character has the property `White_Space`. -/
def isBlank (c : Char) : Bool :=
  inRanges blankRanges c.toNat

/-- Whether a text holds nothing but blank characters; the empty text does. -/
def allBlank (text : String) : Bool :=
  text.toList.all isBlank

example : (blankRanges.map fun range => range.2 + 1 - range.1).sum = 25 := by decide

end Preflight.Text
