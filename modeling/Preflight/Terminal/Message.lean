import Preflight.Terminal.Plain
import Preflight.Terminal.Style

/-!
Messages to the one who gave the command: spans that are written with their styles, or as plain
text.
-/

namespace Preflight.Terminal

/-- The text of a message. Without styles it is plain, so that nothing quoted in it can steer the
terminal. The codes of its styles go the same way as what is quoted, and the code that closes a
style ends a sequence that was left open inside it. -/
def messageText (isStyled : Bool) (spans : List Span) : String :=
  let text := String.join (spans.flatMap (·.pieces true))
  if isStyled then text else plainText text

end Preflight.Terminal
