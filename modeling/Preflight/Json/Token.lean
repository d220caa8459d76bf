import Preflight.Json.Fault
import Preflight.Text.Digit

/-!
The smallest parts of a JSON document: blanks, words, text and numbers. Each reader takes the
characters that are still unread and returns what it read with the characters after it.
-/

namespace Preflight.Json

/-- A reader of values of a type. -/
abbrev Reader (α : Type) := List Char → Except Failure (α × List Char)

def stopBefore {α : Type} (fault : Fault) (rest : List Char) : Except Failure α :=
  .error ⟨fault, .before rest⟩

def stopAfter {α : Type} (fault : Fault) (rest : List Char) : Except Failure α :=
  .error ⟨fault, .after rest⟩

/-! ## Blanks and words -/

/-- The four characters that may stand between tokens. -/
def isGap (c : Char) : Bool :=
  c == ' ' || c == '\n' || c == '\t' || c == '\r'

def skipGap (chars : List Char) : List Char :=
  chars.dropWhile isGap

/-- Read the letters of a word one by one. -/
def readWord : List Char → List Char → Except Failure (List Char)
  | [], rest => .ok rest
  | _ :: _, [] => stopBefore .endOfValue []
  | letter :: letters, c :: rest =>
      if c = letter then readWord letters rest else stopAfter .expectedWord (c :: rest)

/-! ## Text -/

def hexQuad? (a b c d : Char) : Option Nat := do
  let a ← Text.hexValue? a
  let b ← Text.hexValue? b
  let c ← Text.hexValue? c
  let d ← Text.hexValue? d
  return ((a * 16 + b) * 16 + c) * 16 + d

/-- Read the four hexadecimal digits of an escape. Four bytes are taken before they are looked at,
so fewer than four put the fault at the end of the text. -/
def readQuad : Reader Nat
  | a :: b :: c :: d :: rest =>
      match hexQuad? a b c d with
      | some value => .ok (value, rest)
      | none => .error ⟨.invalidEscape, ⟨a :: b :: c :: d :: rest, 4⟩⟩
  | few =>
      if Text.Utf8.size few < 4 then stopBefore .endOfText []
      else .error ⟨.invalidEscape, ⟨few, 4⟩⟩

/-- Whether a code unit is the first half of a surrogate pair. -/
def isHighSurrogate (unit : Nat) : Bool := 0xD800 ≤ unit && unit ≤ 0xDBFF

/-- Whether a code unit is the second half of a surrogate pair. -/
def isLowSurrogate (unit : Nat) : Bool := 0xDC00 ≤ unit && unit ≤ 0xDFFF

/-- The character that a surrogate pair stands for. -/
def pairedChar (high low : Nat) : Char :=
  Char.ofNat (0x10000 + (high - 0xD800) * 0x400 + (low - 0xDC00))

/-- Read what must follow the first half of a surrogate pair: an escape of the second half. -/
def readLowSurrogate : Reader Nat
  | '\\' :: 'u' :: rest => do
      let (low, after) ← readQuad rest
      if isLowSurrogate low then return (low, after) else stopBefore .loneSurrogate after
  | [] => stopBefore .endOfText []
  | ['\\'] => stopBefore .endOfText []
  | '\\' :: c :: rest => stopAfter .brokenSurrogate (c :: rest)
  | c :: rest => stopAfter .brokenSurrogate (c :: rest)

/-- Read a character written as `\u` and four digits, once the `\u` has been taken. -/
def readCodeUnit : Reader Char := fun chars => do
  let (unit, rest) ← readQuad chars
  if isLowSurrogate unit then stopBefore .loneSurrogate rest
  else if isHighSurrogate unit then
    let (low, after) ← readLowSurrogate rest
    return (pairedChar unit low, after)
  else return (Char.ofNat unit, rest)

/-- The character that a backslash and a letter stand for. -/
def shortEscape? : Char → Option Char
  | '"' => some '"'
  | '\\' => some '\\'
  | '/' => some '/'
  | 'b' => some '\x08'
  | 'f' => some '\x0c'
  | 'n' => some '\n'
  | 'r' => some '\r'
  | 't' => some '\t'
  | _ => none

/-- One unit of a text: a character, or the closing quote. -/
def readUnit : Reader (Option Char)
  | [] => stopBefore .endOfText []
  | '"' :: rest => .ok (none, rest)
  | ['\\'] => stopBefore .endOfText []
  | '\\' :: 'u' :: rest => do
      let (c, after) ← readCodeUnit rest
      return (some c, after)
  | '\\' :: letter :: rest =>
      match shortEscape? letter with
      | some c => .ok (some c, rest)
      | none => stopAfter .invalidEscape (letter :: rest)
  | c :: rest =>
      if c.toNat < 0x20 then stopAfter .controlCharacter (c :: rest) else .ok (some c, rest)

/-- Read the characters of a text of at most so many units, the closing quote included. -/
def readUnits : Nat → Reader (List Char)
  | 0, rest => stopBefore .endOfText rest
  | units + 1, chars => do
      match ← readUnit chars with
      | (none, rest) => return ([], rest)
      | (some c, rest) =>
          let (cs, after) ← readUnits units rest
          return (c :: cs, after)

/-- Read a text once its opening quote has been taken. Every unit takes a character, so their
number is bounded by that of the unread characters. -/
def readTextBody : Reader String := fun chars => do
  let (cs, rest) ← readUnits (chars.length + 1) chars
  return (String.ofList cs, rest)

end Preflight.Json
