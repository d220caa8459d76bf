import Preflight.Log.Pattern.Switches
import Preflight.Text.Digit

/-!
Signs of a pattern behind a backslash: characters by number or by letter, kinds of characters, and
places between characters.
-/

namespace Preflight.Log.Pattern

/-- What a sign stands for: a certain character, one of a kind, or a place between characters. -/
inductive Sign where
  | literal (c : Char)
  | kind
  | place
  deriving DecidableEq, Repr

/-- Read so many digits to base sixteen behind those of a number that has been begun, with gaps in
front of them. -/
def readDigits? (switches : Switches) :
    Nat → Nat → List Char → Option (Nat × List Char)
  | 0, number, text => some (number, text)
  | digits + 1, number, text =>
      match switches.skip text with
      | [] => none
      | c :: rest => do
          readDigits? switches digits (number * 16 + (← Text.hexValue? c)) rest

def readNumbered? (switches : Switches) (digits : Nat) (text : List Char) :
    Option (Char × List Char) := do
  let (number, rest) ← readDigits? switches digits 0 text
  if number.isValidChar then some (Char.ofNat number, rest) else none

/-- The letters that name a control character. -/
def controls : List (Char × Char) :=
  [('a', '\x07'), ('t', '\t'), ('n', '\n'), ('v', '\x0b'), ('f', '\x0c'), ('r', '\r')]

/-- Whether a character can stand where a pattern asks for a single one. In a pattern for bytes that
is a single byte, and a byte beyond ASCII would be part of a character. -/
def Switches.allowsAlone (switches : Switches) (c : Char) : Bool :=
  !switches.bytewise || c.toNat < 0x80

/-- Read what stands behind a backslash. The kinds that hold more than ASCII are for characters
only, and the limits of words for bytes only: whether a character belongs to a word cannot be told
from one byte after another. -/
def readEscape? (switches : Switches) : List Char → Option (Sign × List Char)
  | [] => none
  | c :: rest =>
      if c = 'x' then
        (readNumbered? switches 2 rest).bind fun (byte, rest) =>
          if switches.allowsAlone byte then some (.literal byte, rest) else none
      else if c = 'u' then (readNumbered? switches 4 rest).map fun (d, rest) => (.literal d, rest)
      else if c = 'U' then (readNumbered? switches 8 rest).map fun (d, rest) => (.literal d, rest)
      else if c = 'p' || c = 'P' then
        match switches.skip rest with
        | [] => none
        | category :: rest =>
            if !switches.bytewise && "CLMNPSZ".toList.contains category.toUpper then
              some (.kind, rest)
            else none
      else if "dsw".toList.contains c then some (.kind, rest)
      else if "DSW".toList.contains c then
        if switches.bytewise then none else some (.kind, rest)
      else if c = 'A' || c = 'z' then some (.place, rest)
      else if "bB<>".toList.contains c then
        if switches.bytewise then some (.place, rest) else none
      else
        match controls.lookup c with
        | some control => some (.literal control, rest)
        | none =>
            if 0x80 ≤ c.toNat || c.isAlphanum then none else some (.literal c, rest)

end Preflight.Log.Pattern
