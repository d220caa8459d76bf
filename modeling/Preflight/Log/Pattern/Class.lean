import Preflight.Log.Pattern.Escape

/-!
Classes of characters between brackets: characters and ranges of them, kinds, named classes and
further classes, which two-character signs can join.

Besides whether a class is well formed, it is found out how deeply it is nested. A pattern for bytes
has no complements: each of them would have bytes beyond ASCII.
-/

namespace Preflight.Log.Pattern

/-- One more than the greatest of some depths, unless there is only one of them, which needs nothing
to hold it together. -/
def depthOfAll : List Nat → Nat
  | [] => 0
  | [depth] => depth
  | depths => depths.foldl max 0 + 1

structure OpenClass where
  /-- Whether nothing but dashes has been read, which stand for themselves. -/
  fresh : Bool
  /-- How deeply all that stands in front of the last sign that joins classes is nested. -/
  joined : Option Nat
  /-- How deeply each part behind that sign, or behind the bracket, is nested. -/
  parts : List Nat
  deriving DecidableEq, Repr

namespace OpenClass

def empty : OpenClass := ⟨true, none, []⟩

/-- Add a dash at the beginning of a class. -/
def addDash (opened : OpenClass) : OpenClass :=
  { opened with parts := 0 :: opened.parts }

/-- Add something else to a class. -/
def add (opened : OpenClass) (depth : Nat) : OpenClass :=
  { opened with fresh := false, parts := depth :: opened.parts }

/-- How deeply all that a class holds up to now is nested. -/
def depth (opened : OpenClass) : Nat :=
  match opened.joined with
  | none => depthOfAll opened.parts
  | some depth => max depth (depthOfAll opened.parts) + 1

/-- Go on behind a sign that joins what stands in front of it with what follows. -/
def join (opened : OpenClass) : OpenClass :=
  ⟨false, some opened.depth, []⟩

end OpenClass

/-- Read what belongs to the bracket that opens a class. A caret makes it a complement. -/
def readClassStart? (switches : Switches) (text : List Char) : Option (List Char) :=
  match switches.skip text with
  | '^' :: rest => if switches.bytewise then none else some rest
  | rest => some rest

/-- The names of the classes that can stand between brackets and colons inside brackets. -/
def classNames : List String :=
  ["alnum", "alpha", "ascii", "blank", "cntrl", "digit", "graph", "lower", "print", "punct",
    "space", "upper", "word", "xdigit"]

/-- Read a named class behind its opening bracket, if one stands there. A caret in front of the name
makes it the complement, which is told apart. -/
def readNamed? (text : List Char) : Option (Bool × List Char) :=
  [(":", false), (":^", true)].findSome? fun (intro, negated) =>
    classNames.findSome? fun name =>
      let written := (intro ++ name ++ ":]").toList
      if written.isPrefixOf text then some (negated, text.drop written.length) else none

def readMember? (switches : Switches) : List Char → Option (Sign × List Char)
  | [] => none
  | '\\' :: rest => readEscape? switches rest
  | c :: rest => some (.literal c, rest)

/-- The sign that is seen behind a dash. Blanks are looked through, but of a comment no more than
its beginning. -/
def Switches.peek (switches : Switches) (text : List Char) : Option Char :=
  if switches.spaced then
    match text.dropWhile Text.isBlank with
    | '#' :: rest => (rest.dropWhile Text.isBlank).head?
    | seen => seen.head?
  else text.head?

/-- Read a character, a kind of characters, or a range from one character to another that does not
come before it. -/
def readRange? (switches : Switches) (text : List Char) : Option (List Char) := do
  let (first, rest) ← readMember? switches text
  let alone : Option (List Char) :=
    match first with
    | .literal c => if switches.allowsAlone c then some rest else none
    | .kind => some rest
    | .place => none
  match switches.skip rest with
  | '-' :: behind =>
      if switches.peek behind = some ']' || switches.peek behind = some '-' then alone
      else
        match first, ← readMember? switches (switches.skip behind) with
        | .literal low, (.literal high, after) =>
            if low ≤ high && switches.allowsAlone high then some after else none
        | _, _ => none
  | _ => alone

/-- Read a class to its end and measure how deeply it is nested. Of the classes that are open the
innermost comes first, and every sign takes one of so many steps. -/
def readOpenClass? (switches : Switches) :
    Nat → OpenClass → List OpenClass → List Char → Option (Nat × List Char)
  | 0, _, _, _ => none
  | steps + 1, inner, outer, text =>
      match switches.skip text with
      | [] => none
      | '-' :: rest =>
          if inner.fresh then readOpenClass? switches steps inner.addDash outer rest
          else if rest.head? = some '-' then
            readOpenClass? switches steps inner.join outer (rest.drop 1)
          else
            (readRange? switches ('-' :: rest)).bind
              (readOpenClass? switches steps (inner.add 0) outer)
      | ']' :: rest =>
          if inner.fresh && inner.parts.isEmpty then
            readOpenClass? switches steps (inner.add 0) outer rest
          else
            match outer with
            | [] => some (inner.depth + 1, rest)
            | around :: outer =>
                readOpenClass? switches steps (around.add (inner.depth + 1)) outer rest
      | '[' :: rest =>
          match readNamed? rest with
          | some (negated, rest) =>
              if switches.bytewise && negated then none
              else readOpenClass? switches steps (inner.add 0) outer rest
          | none =>
              (readClassStart? switches rest).bind
                (readOpenClass? switches steps .empty (inner :: outer))
      | '&' :: '&' :: rest => readOpenClass? switches steps inner.join outer rest
      | '~' :: '~' :: rest => readOpenClass? switches steps inner.join outer rest
      | text =>
          (readRange? switches text).bind (readOpenClass? switches steps (inner.add 0) outer)

/-- Read a class from behind its opening bracket and measure how deeply it is nested. -/
def readClass? (switches : Switches) (steps : Nat) (text : List Char) :
    Option (Nat × List Char) :=
  (readClassStart? switches text).bind (readOpenClass? switches steps .empty [])

end Preflight.Log.Pattern
