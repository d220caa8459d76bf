import Preflight.Json.Number

/-!
Readers of JSON values whose type is known beforehand: text, booleans, lists and records.

Whoever wants one type and comes upon another value reads on just far enough to name it: words,
numbers and texts are read to their end, arrays and objects are only seen to begin.

A record is an object with known fields in any order, or an array of their values in the order in
which the record declares them.
-/

namespace Preflight.Json

/-! ## Refusals -/

/-- The failure of a reader that wants one thing and comes upon `found`. -/
def mismatch (found : Found) (wanted : Wanted) (rest : List Char) : Failure :=
  ⟨.mismatch found wanted, .before rest⟩

/-- The failure of a reader that wants something the unread characters do not begin with. -/
def refuse (wanted : Wanted) : List Char → Failure
  | [] => ⟨.endOfValue, .after []⟩
  | 'n' :: rest =>
      match readWord ['u', 'l', 'l'] rest with
      | .ok after => mismatch .null wanted after
      | .error failure => failure
  | 't' :: rest =>
      match readWord ['r', 'u', 'e'] rest with
      | .ok after => mismatch (.boolean true) wanted after
      | .error failure => failure
  | 'f' :: rest =>
      match readWord ['a', 'l', 's', 'e'] rest with
      | .ok after => mismatch (.boolean false) wanted after
      | .error failure => failure
  | '"' :: rest =>
      match readTextBody rest with
      | .ok (text, after) => mismatch (.text text) wanted after
      | .error failure => failure
  | '[' :: rest => mismatch .sequence wanted ('[' :: rest)
  | '\x7b' :: rest => mismatch .map wanted ('\x7b' :: rest)
  | c :: rest =>
      if c = '-' ∨ c.isDigit then
        match readNumber (c :: rest) with
        | .ok (number, after) => mismatch (.number number) wanted after
        | .error failure => failure
      else ⟨.expectedValue, .after (c :: rest)⟩

/-! ## Plain values -/

def readText : Reader String := fun chars =>
  match skipGap chars with
  | '"' :: rest => readTextBody rest
  | rest => .error (refuse .text rest)

def readBoolean : Reader Bool := fun chars =>
  match skipGap chars with
  | 't' :: rest => (readWord ['r', 'u', 'e'] rest).map (true, ·)
  | 'f' :: rest => (readWord ['a', 'l', 's', 'e'] rest).map (false, ·)
  | rest => .error (refuse .boolean rest)

/-! ## Lists -/

/-- Move to the next item of a list, if there is one. The closing bracket is left unread. -/
def nextItem (first : Bool) : Reader Bool := fun chars =>
  match skipGap chars with
  | [] => stopAfter .endOfList []
  | ']' :: rest => .ok (false, ']' :: rest)
  | c :: rest =>
      if first then .ok (true, c :: rest)
      else if c = ',' then
        match skipGap rest with
        | [] => stopAfter .endOfValue []
        | ']' :: after => stopAfter .trailingComma (']' :: after)
        | after => .ok (true, after)
      else stopAfter .expectedListEnd (c :: rest)

/-- Close a list. -/
def closeList (chars : List Char) : Except Failure (List Char) :=
  match skipGap chars with
  | [] => stopAfter .endOfList []
  | ']' :: rest => .ok rest
  | ',' :: rest =>
      match skipGap rest with
      | ']' :: after => stopAfter .trailingComma (']' :: after)
      | after => stopAfter .trailingCharacters after
  | rest => stopAfter .trailingCharacters rest

/-- Read at most so many items, up to the closing bracket. -/
def readItems {α : Type} (item : Reader α) : Nat → Bool → Reader (List α)
  | 0, _, rest => stopBefore .endOfList rest
  | items + 1, first, chars => do
      match ← nextItem first chars with
      | (false, rest) => return ([], rest)
      | (true, rest) =>
          let (head, rest) ← item rest
          let (tail, rest) ← readItems item items false rest
          return (head :: tail, rest)

/-- Read a list of items. Every item takes a character, so their number is bounded by that of the
unread characters. -/
def readList {α : Type} (item : Reader α) : Reader (List α) := fun chars =>
  match skipGap chars with
  | '[' :: rest => do
      let (items, rest) ← readItems item (rest.length + 1) true rest
      let rest ← closeList rest
      return (items, rest)
  | rest => .error (refuse .sequence rest)

/-! ## Records -/

/-- A field of a record that is being put together as a draft. -/
structure Field (Draft : Type) where
  name : String
  /-- Whether an array that stands for the record may end before this field. -/
  optional : Bool
  filled : Draft → Bool
  read : Draft → Reader Draft

/-- How a record is read: its title and fields, an empty draft, and the record that a draft makes
once its end has been reached. -/
structure Record (Draft α : Type) where
  title : String
  fields : List (Field Draft)
  blank : Draft
  finish : Draft → Except Fault α

/-- Why a record breaks off. Some faults are about the record as a whole; they are placed where the
reader stands once it has looked for the end of the record. -/
inductive Break where
  | placed (failure : Failure)
  | unplaced (fault : Fault) (rest : List Char)

/-- Count a failure that already has a place as the end of a record. -/
def placed {α : Type} : Except Failure α → Except Break α
  | .ok value => .ok value
  | .error failure => .error (.placed failure)

/-- Move to the next member of an object, if there is one, and take the opening quote of its key.
The closing brace is left unread. -/
def nextMember (first : Bool) : Reader Bool := fun chars =>
  match skipGap chars with
  | [] => stopAfter .endOfObject []
  | '\x7d' :: rest => .ok (false, '\x7d' :: rest)
  | c :: rest =>
      if first then
        if c = '"' then .ok (true, rest) else stopAfter .keyNotText (c :: rest)
      else if c = ',' then
        match skipGap rest with
        | [] => stopAfter .endOfValue []
        | '"' :: after => .ok (true, after)
        | '\x7d' :: after => stopAfter .trailingComma ('\x7d' :: after)
        | after => stopAfter .keyNotText after
      else stopAfter .expectedObjectEnd (c :: rest)

/-- Take the colon between a key and its value. -/
def readColon (chars : List Char) : Except Failure (List Char) :=
  match skipGap chars with
  | [] => stopAfter .endOfObject []
  | ':' :: rest => .ok rest
  | rest => stopAfter .expectedColon rest

/-- Close an object. -/
def closeObject (chars : List Char) : Except Failure (List Char) :=
  match skipGap chars with
  | [] => stopAfter .endOfObject []
  | '\x7d' :: rest => .ok rest
  | ',' :: rest => stopAfter .trailingComma (',' :: rest)
  | rest => stopAfter .trailingCharacters rest

namespace Record

variable {Draft α : Type}

/-- Read at most so many members of an object, up to the closing brace. A key is judged before its
colon is looked for. -/
def readMembers (record : Record Draft α) :
    Nat → Bool → Draft → List Char → Except Break (Draft × List Char)
  | 0, _, _, rest => placed (stopBefore .endOfObject rest)
  | members + 1, first, draft, chars => do
      match ← placed (nextMember first chars) with
      | (false, rest) => return (draft, rest)
      | (true, rest) =>
          let (key, rest) ← placed (readTextBody rest)
          match record.fields.find? (·.name == key) with
          | none => throw (.unplaced (.unknownField key (record.fields.map (·.name))) rest)
          | some field =>
              if field.filled draft then throw (.unplaced (.repeatedField key) rest)
              else
                let rest ← placed (readColon rest)
                let (draft, rest) ← placed (field.read draft rest)
                record.readMembers members false draft rest

/-- Read the values of some fields in order, where `index` is the number of fields before them. -/
def readPlaces (record : Record Draft α) :
    Nat → List (Field Draft) → Draft → List Char → Except Break (Draft × List Char)
  | _, [], draft, rest => .ok (draft, rest)
  | index, field :: fields, draft, chars => do
      match ← placed (nextItem (index == 0) chars) with
      | (false, rest) =>
          if field.optional then record.readPlaces (index + 1) fields draft rest
          else throw (.unplaced (.tooShort index record.title record.fields.length) rest)
      | (true, rest) =>
          let (draft, rest) ← placed (field.read draft rest)
          record.readPlaces (index + 1) fields draft rest

/-- The record that a draft makes at its end. -/
def complete (record : Record Draft α) (draft : Draft) (rest : List Char) :
    Except Break (α × List Char) :=
  match record.finish draft with
  | .ok value => .ok (value, rest)
  | .error fault => .error (.unplaced fault rest)

/-- Where a reader stands once it has looked for the end of a record: behind the closing character
if that comes next, else before whatever does. -/
def beyond (closing : Char) (rest : List Char) : List Char :=
  match skipGap rest with
  | [] => []
  | c :: after => if c = closing then after else c :: after

/-- Close a record that has been read up to its end. -/
def settle (closing : Char) (close : List Char → Except Failure (List Char)) :
    Except Break (α × List Char) → Except Failure (α × List Char)
  | .ok (value, rest) => (close rest).map (value, ·)
  | .error (.placed failure) => .error failure
  | .error (.unplaced fault rest) => stopBefore fault (beyond closing rest)

/-- Read a record. Every member takes a character, so their number is bounded by that of the unread
characters. -/
def read (record : Record Draft α) : Reader α := fun chars =>
  match skipGap chars with
  | '[' :: rest =>
      settle ']' closeList do
        let (draft, rest) ← record.readPlaces 0 record.fields record.blank rest
        record.complete draft rest
  | '\x7b' :: rest =>
      settle '\x7d' closeObject do
        let (draft, rest) ← record.readMembers (rest.length + 1) true record.blank rest
        record.complete draft rest
  | rest => .error (refuse (.record record.title) rest)

end Record

/-! ## Documents -/

/-- Read a whole document: one value, with nothing but gaps around it. -/
def readDocument {α : Type} (value : Reader α) (text : String) : Except Error α :=
  let chars := text.toList
  let outcome : Except Failure α := do
    let (value, rest) ← value chars
    match skipGap rest with
    | [] => return value
    | rest => stopAfter .trailingCharacters rest
  match outcome with
  | .ok value => .ok value
  | .error failure => .error (failure.within chars)

end Preflight.Json
