import Preflight.Log.Event
import Preflight.Log.Pattern
import Preflight.Text.Alphanumeric
import Preflight.Text.Blank
import Preflight.Text.Utf8

/-!
Directives: the rules of a filter, and how they are written.

A directive is a level for every event, or it begins with what it is about: the beginning of some
targets, then in brackets a span and in braces a field that have to be there. A level may follow
behind an equals sign; without one everything is shown.
-/

namespace Preflight.Log

/-- A field that a directive asks for, by its name or by a pattern for its value too. -/
structure FieldTest where
  name : String
  value : Option String
  deriving DecidableEq, Repr

/-- A rule of a filter. Level `none` shows nothing, and the empty beginning covers every target. -/
structure Directive where
  target : List Char
  span : Option String
  field : Option FieldTest
  level : Option Level
  deriving DecidableEq, Repr

namespace Level

/-- The names of the levels and of no level at all. -/
def names : List (List Char × Option Level) :=
  [("off".toList, none), ("error".toList, some .error), ("warn".toList, some .warn),
    ("info".toList, some .info), ("debug".toList, some .debug), ("trace".toList, some .trace)]

/-- The value of a number written in decimal digits, with or without a plus sign. -/
def number? (text : List Char) : Option Nat :=
  match text with
  | '+' :: digits => Text.wholeNumber? digits
  | digits => Text.wholeNumber? digits

/-- The level, or its absence, that a word stands for: a name in letters of either case, or a number
from zero, for none, to five. -/
def ofWord? (word : List Char) : Option (Option Level) :=
  match number? word with
  | some value => (names[value]?).map (·.2)
  | none => (names.find? fun entry => entry.1 == word.map Char.toLower).map (·.2)

/-- The level written behind an equals sign; where nothing is written it is the last one. -/
def afterSign? (text : List Char) : Option (Option Level) :=
  if text.isEmpty then some (some .trace) else ofWord? text

end Level

/-- The test that stands between braces. What follows a second equals sign does not count. -/
def FieldTest.parse? (text : List Char) : Option FieldTest :=
  let name := String.ofList (text.takeWhile (· != '='))
  match text.dropWhile (· != '=') with
  | [] => if text.isEmpty then none else some ⟨name, none⟩
  | _ :: rest =>
      let value := rest.takeWhile (· != '=')
      if isPattern value then some ⟨name, some (String.ofList value)⟩ else none

/-- A place in the word of a directive. The signs that end its parts are looked for in the shape,
which is the word without the blanks around it, but the parts are cut out of the word itself, after
as many bytes as stand in front of them in the shape. So behind blanks every part is cut too
early. -/
structure Cursor where
  word : List Char
  /-- What is left of the shape. -/
  shape : List Char
  /-- How many bytes of the shape are passed. -/
  offset : Nat
  deriving DecidableEq, Repr

namespace Cursor

def ofWord (word : List Char) : Cursor :=
  ⟨word, ((word.dropWhile Text.isBlank).reverse.dropWhile Text.isBlank).reverse, 0⟩

/-- The place so many characters further on. -/
def advance (count : Nat) (cursor : Cursor) : Cursor :=
  ⟨cursor.word, cursor.shape.drop count,
    cursor.offset + Text.Utf8.size (cursor.shape.take count)⟩

/-- The place of the first of some signs, or the end. -/
def seek (signs : List Char) (cursor : Cursor) : Cursor :=
  cursor.advance (cursor.shape.takeWhile (!signs.contains ·)).length

/-- The part of the word between two places, unless it cuts a character apart. -/
def between? (first last : Cursor) : Option (List Char) :=
  Text.Utf8.slice? first.offset last.offset first.word

/-- The part of the word from a place on, unless it cuts a character apart. -/
def behind? (cursor : Cursor) : Option (List Char) :=
  (Text.Utf8.splitAt? cursor.offset cursor.word).map (·.2)

end Cursor

namespace Directive

/-- Whether a character can begin the target of a directive. -/
def canBegin (c : Char) : Bool :=
  c == '-' || c == ':' || c == '_' || Text.isAlphanumeric c

/-- Read the level behind what a directive is about, up to the end of the word. -/
def readLevel? (target : List Char) (span : Option String) (field : Option FieldTest)
    (cursor : Cursor) : Option Directive :=
  match cursor.shape with
  | [] => some ⟨target, span, field, some .trace⟩
  | '=' :: _ => do
      let level ← Level.afterSign? (← (cursor.advance 1).behind?)
      return ⟨target, span, field, level⟩
  | _ => none

/-- Read what stands in brackets, from behind the bracket that opens. -/
def readSpan? (target : List Char) (cursor : Cursor) : Option Directive := do
  let sign := cursor.seek [']', '\x7b']
  let span ← cursor.between? sign
  match sign.shape with
  | ']' :: _ => readLevel? target (some (String.ofList span)) none (sign.advance 1)
  | '\x7b' :: _ =>
      let start := sign.advance 1
      let sign := start.seek ['\x7d']
      let field ← FieldTest.parse? (← start.between? sign)
      match sign.shape with
      | '\x7d' :: ']' :: _ =>
          let span := if span.isEmpty then none else some (String.ofList span)
          readLevel? target span (some field) (sign.advance 2)
      | _ => none
  | _ => none

/-- The directive that a word stands for, if it stands for one. -/
def parse? (word : List Char) : Option Directive :=
  let start := Cursor.ofWord word
  match start.shape with
  | [] => none
  | '[' :: _ => readSpan? [] (start.advance 1)
  | c :: _ =>
      if !canBegin c then none
      else
        let sign := start.seek ['=', '[']
        match sign.shape with
        | '[' :: _ => (start.between? sign).bind (readSpan? · (sign.advance 1))
        | [] =>
            match Level.ofWord? word with
            | some level => some ⟨[], none, none, level⟩
            | none => some ⟨word, none, none, some .trace⟩
        | _ => (start.between? sign).bind (readLevel? · none none sign)

/-- Whether a directive covers an event. Events stand outside every span, so one that asks for a
span covers none, and neither does one that asks for the value of a field, which is looked up in the
spans around an event. -/
def covers (directive : Directive) (event : Event) : Bool :=
  directive.span.isNone && directive.target.isPrefixOf event.target.toList
    && (match directive.field with
      | none => true
      | some test => test.value.isNone && event.fieldNames.contains test.name)

/-- Whether a directive says at least as exactly what it is about as another one that covers the
same event. The longer target counts first, then a field. Of two fields the one that comes later in
the order of characters is preferred. -/
def isAsSpecific (directive other : Directive) : Bool :=
  if directive.target.length = other.target.length then
    match directive.field, other.field with
    | _, none => true
    | none, some _ => false
    | some test, some than => decide (than.name ≤ test.name)
  else other.target.length < directive.target.length

end Directive

end Preflight.Log
