/-!
JSON values and their indented text: one item or member to a line, two more spaces of indentation
for each level, and nothing between the brackets of an empty array or object.

The text is a list of pieces in the order in which they are written, so that a writer that runs out
of room can stop between any two of them or inside one.
-/

namespace Preflight.Json

/-- A JSON value. The numbers are the whole ones from zero on; the members of an object keep their
order. -/
inductive Value where
  | null
  | boolean (value : Bool)
  | number (value : Nat)
  | text (value : String)
  | array (items : List Value)
  | object (members : List (String × Value))

/-- The lower-case hexadecimal digit of a number below sixteen. -/
def lowerHexDigit (n : Nat) : Char :=
  if n < 10 then Char.ofNat ('0'.toNat + n) else Char.ofNat ('a'.toNat + (n - 10))

/-- How one character is written inside a text: quotes, backslashes and control characters are
escaped, by a letter if there is one. -/
def escapedChar (c : Char) : List Char :=
  if c = '"' then ['\\', '"']
  else if c = '\\' then ['\\', '\\']
  else if c = '\x08' then ['\\', 'b']
  else if c = '\x0c' then ['\\', 'f']
  else if c = '\n' then ['\\', 'n']
  else if c = '\r' then ['\\', 'r']
  else if c = '\t' then ['\\', 't']
  else if c.toNat < 0x20 then
    ['\\', 'u', '0', '0', lowerHexDigit (c.toNat / 16), lowerHexDigit (c.toNat % 16)]
  else [c]

def literal (text : String) : String :=
  String.ofList ('"' :: text.toList.flatMap escapedChar ++ ['"'])

def newLine (level : Nat) : String :=
  String.ofList ('\n' :: List.replicate (2 * level) ' ')

namespace Value

mutual

/-- The pieces of a value that starts on a line indented to a level. -/
def pieces (level : Nat) : Value → List String
  | .null => ["null"]
  | .boolean true => ["true"]
  | .boolean false => ["false"]
  | .number value => [toString value]
  | .text value => [literal value]
  | .array [] => ["[", "]"]
  | .array (item :: items) =>
      "[" :: newLine (level + 1) :: pieces (level + 1) item
        ++ (itemPieces (level + 1) items ++ [newLine level, "]"])
  | .object [] => ["\x7b", "\x7d"]
  | .object ((key, value) :: members) =>
      "\x7b" :: newLine (level + 1) :: literal key :: ": " :: pieces (level + 1) value
        ++ (memberPieces (level + 1) members ++ [newLine level, "\x7d"])

def itemPieces (level : Nat) : List Value → List String
  | [] => []
  | item :: items => "," :: newLine level :: pieces level item ++ itemPieces level items

def memberPieces (level : Nat) : List (String × Value) → List String
  | [] => []
  | (key, value) :: members =>
      "," :: newLine level :: literal key :: ": " :: pieces level value
        ++ memberPieces level members

end

def indented (value : Value) : String :=
  String.join (value.pieces 0)

end Value

end Preflight.Json
