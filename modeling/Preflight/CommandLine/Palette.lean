import Preflight.CommandLine.Options
import Preflight.Terminal.Style

/-!
How messages about the command line look: the styles they use, and arguments as spans.
-/

namespace Preflight.CommandLine

open Terminal (Span Style)

namespace Palette

/-- The word that says that something is wrong. -/
def alarm : Style := ⟨[1, 31], 0⟩

def heading : Style := ⟨[1, 4], 0⟩

/-- What is typed as it stands. -/
def literal : Style := .bold

/-- What should not be there, or has something missing. -/
def wrong : Style := ⟨[33], 0⟩

/-- What can stand there instead. -/
def good : Style := ⟨[32], 0⟩

end Palette

namespace Argument

/-- What is typed for an argument. -/
def typed (argument : Argument) : String := "--" ++ argument.long

/-- An argument, and behind it the name of its value. -/
def spans (argument : Argument) : List Span :=
  .styled Palette.literal argument.typed
    :: (argument.valueName?.map fun name => Span.plain (" <" ++ name ++ ">")).toList

/-- An argument as messages name it. -/
def display (argument : Argument) : String :=
  Span.bareText argument.spans

end Argument

/-- The choice between arguments. -/
def choice (arguments : List Argument) : String :=
  "<" ++ String.intercalate "|" (arguments.map (·.display)) ++ ">"

end Preflight.CommandLine
