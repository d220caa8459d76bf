import Preflight.Text.Alphabetic
import Preflight.Text.Numeric

/-!
Letters and numbers of every script.
-/

namespace Preflight.Text

/-- Whether a character is a letter or a number of some script. -/
def isAlphanumeric (c : Char) : Bool :=
  isAlphabetic c || isNumeric c

end Preflight.Text
