import Preflight.Decimal.Shortest
import Preflight.Text.Quoted
import Preflight.Text.Utf8

/-!
Why a JSON document cannot be read, where, and the wording.

A reader works on the characters that are still unread. Where it gives up is therefore a *mark*:
the unread characters and the number of their bytes that it had taken already. A mark becomes a
line and a column only when the whole text is at hand.
-/

namespace Preflight.Json

/-- A number as a document writes it: whole, when it fits in sixty-four bits, else a
double-precision number. -/
inductive Number where
  | whole (value : Int)
  | real (value : Float)

/-- What a reader comes upon where it wants something else. -/
inductive Found where
  | null
  | boolean (value : Bool)
  | number (value : Number)
  | text (value : String)
  | sequence
  | map

/-- What a reader wants. -/
inductive Wanted where
  | text
  | boolean
  | sequence
  | record (title : String)

inductive Fault where
  | endOfValue
  | endOfText
  | endOfList
  | endOfObject
  | expectedValue
  | expectedWord
  | invalidNumber
  | numberTooLarge
  | controlCharacter
  | invalidEscape
  /-- Half of a surrogate pair where there is no other half. -/
  | loneSurrogate
  /-- Something other than an escape after the first half of a surrogate pair. -/
  | brokenSurrogate
  | expectedListEnd
  | expectedObjectEnd
  | expectedColon
  | keyNotText
  | trailingComma
  | trailingCharacters
  | mismatch (found : Found) (wanted : Wanted)
  | unknownField (name : String) (known : List String)
  | repeatedField (name : String)
  | missingField (name : String)
  /-- An array stands for the record `title` but ends after `length` of its `fields` fields. -/
  | tooShort (length : Nat) (title : String) (fields : Nat)

def Number.describe : Number → String
  | .whole value => "integer `" ++ toString value ++ "`"
  | .real value => "floating point `" ++ Decimal.writeFloat .diagnostic value ++ "`"

def Found.describe : Found → String
  | .null => "null"
  | .boolean true => "boolean `true`"
  | .boolean false => "boolean `false`"
  | .number value => value.describe
  | .text value => "string " ++ Text.quoted value
  | .sequence => "sequence"
  | .map => "map"

def Wanted.describe : Wanted → String
  | .text => "a string"
  | .boolean => "a boolean"
  | .sequence => "a sequence"
  | .record title => "struct " ++ title

/-- Names between backquotes, with commas. -/
def nameList (names : List String) : String :=
  String.intercalate ", " (names.map fun name => "`" ++ name ++ "`")

def Fault.message : Fault → String
  | .endOfValue => "EOF while parsing a value"
  | .endOfText => "EOF while parsing a string"
  | .endOfList => "EOF while parsing a list"
  | .endOfObject => "EOF while parsing an object"
  | .expectedValue => "expected value"
  | .expectedWord => "expected ident"
  | .invalidNumber => "invalid number"
  | .numberTooLarge => "number out of range"
  | .controlCharacter => "control character (\\u0000-\\u001F) found while parsing a string"
  | .invalidEscape => "invalid escape"
  | .loneSurrogate => "lone leading surrogate in hex escape"
  | .brokenSurrogate => "unexpected end of hex escape"
  | .expectedListEnd => "expected `,` or `]`"
  | .expectedObjectEnd => "expected `,` or `\x7d`"
  | .expectedColon => "expected `:`"
  | .keyNotText => "key must be a string"
  | .trailingComma => "trailing comma"
  | .trailingCharacters => "trailing characters"
  | .mismatch found wanted =>
      "invalid type: " ++ found.describe ++ ", expected " ++ wanted.describe
  | .unknownField name known =>
      "unknown field `" ++ name ++ "`, expected one of " ++ nameList known
  | .repeatedField name => "duplicate field `" ++ name ++ "`"
  | .missingField name => "missing field `" ++ name ++ "`"
  | .tooShort length title fields =>
      "invalid length " ++ toString length ++ ", expected struct " ++ title ++ " with "
        ++ toString fields ++ " elements"

/-! ## Places in a text -/

/-- A place in a text, told from its end: `taken` bytes into the characters still unread. -/
structure Mark where
  rest : List Char
  taken : Nat

def Mark.before (rest : List Char) : Mark := ⟨rest, 0⟩

/-- The place after the next byte, or the end of the text. -/
def Mark.after (rest : List Char) : Mark := ⟨rest, 1⟩

/-- The number of bytes of the text before a mark. -/
def Mark.offset (mark : Mark) (text : List Char) : Nat :=
  min (Text.Utf8.size text) (Text.Utf8.size text - Text.Utf8.size mark.rest + mark.taken)

structure Failure where
  fault : Fault
  mark : Mark

/-- A fault with its line, counted from one, and its column: the number of bytes that lie between
the start of that line and the place. -/
structure Error where
  fault : Fault
  line : Nat
  column : Nat

/-- The line and column that follow some bytes. -/
def position (passed : List UInt8) : Nat × Nat :=
  (1 + passed.count 0x0A, (passed.reverse.takeWhile (· != 0x0A)).length)

/-- A failure in a text, with the place told as line and column. -/
def Failure.within (failure : Failure) (text : List Char) : Error :=
  let passed := (text.flatMap String.utf8EncodeChar).take (failure.mark.offset text)
  let (line, column) := position passed
  ⟨failure.fault, line, column⟩

def Error.message (error : Error) : String :=
  error.fault.message ++ " at line " ++ toString error.line ++ " column " ++ toString error.column

end Preflight.Json
