/-!
Styled text for a terminal. A span is a text with a style or none; with colour on, a style is the
pair of codes that open and close it around the text, and with colour off it is nothing.
-/

namespace Preflight.Terminal

/-- A style: the numbers of the codes that open it, one after another, and of the code that closes
it. -/
structure Style where
  opens : List Nat
  closes : Nat
  deriving DecidableEq, Repr

namespace Style

def code (number : Nat) : String := "\x1b[" ++ toString number ++ "m"

def opening (style : Style) : String := String.join (style.opens.map code)

def closing (style : Style) : String := code style.closes

/-! ## Weights and slants, which are closed with everything else -/

def bold : Style := ⟨[1], 0⟩

def dimmed : Style := ⟨[2], 0⟩

def italic : Style := ⟨[3], 0⟩

/-! ## Colours, which are closed by themselves -/

def red : Style := ⟨[31], 39⟩

def green : Style := ⟨[32], 39⟩

def yellow : Style := ⟨[33], 39⟩

end Style

/-- A text and its style, if it has one. -/
structure Span where
  style : Option Style
  text : String
  deriving DecidableEq, Repr

namespace Span

def plain (text : String) : Span := ⟨none, text⟩

def styled (style : Style) (text : String) : Span := ⟨some style, text⟩

/-- The pieces in which a span is written. -/
def pieces (coloured : Bool) (span : Span) : List String :=
  match span.style with
  | none => [span.text]
  | some style => if coloured then [style.opening, span.text, style.closing] else [span.text]

/-- Without colour a span is its text. -/
theorem pieces_false (span : Span) : span.pieces false = [span.text] := by
  obtain ⟨style, text⟩ := span
  cases style <;> rfl

theorem pieces_plain (coloured : Bool) (text : String) :
    pieces coloured ⟨none, text⟩ = [text] := rfl

theorem pieces_styled (style : Style) (text : String) :
    pieces true ⟨some style, text⟩ = [style.opening, text, style.closing] := rfl

def bareText (spans : List Span) : String :=
  String.join (spans.map (·.text))

end Span

end Preflight.Terminal
