import Preflight.Log.Pattern.Group

/-!
Which texts are patterns: regular expressions that a filter can ask the values of fields to fit.

Only their form matters here. A value is asked for only within a span, and events stand outside
every span, so no pattern is ever tried; but a filter with a text that is no pattern is no filter.
A pattern that is nested too deeply is none.
-/

namespace Preflight.Log.Pattern

/-- How deeply a pattern may be nested. Groups, classes, repetitions, alternatives, and rows of more
than one item count. -/
def maxDepth : Nat := 250

/-- Read a pattern to its end and measure how deeply it is nested. Of the groups that are open the
innermost comes first, no two groups of a pattern have one name, and every sign takes one of so many
steps. Counted repetition is not known, because a brace would end the field. -/
def readGroups? (steps : Nat) (inner : OpenGroup) (outer : List OpenGroup)
    (names : List (List Char)) (text : List Char) : Option Nat :=
  match steps with
  | 0 => none
  | steps + 1 =>
      match inner.switches.skip text with
      | [] => if outer.isEmpty then some inner.depth else none
      | '(' :: rest => do
          match ← readOpening? inner.switches rest with
          | (.turned switches, rest) => readGroups? steps (inner.turn switches) outer names rest
          | (.group switches none, rest) =>
              readGroups? steps (.start switches) (inner :: outer) names rest
          | (.group switches (some name), rest) =>
              if names.contains name then none
              else readGroups? steps (.start switches) (inner :: outer) (name :: names) rest
      | ')' :: rest =>
          match outer with
          | [] => none
          | around :: outer => readGroups? steps (around.add (inner.depth + 1)) outer names rest
      | '|' :: rest => readGroups? steps inner.branch outer names rest
      | '[' :: rest => do
          let (depth, rest) ← readClass? inner.switches steps rest
          readGroups? steps (inner.add depth) outer names rest
      | '\\' :: rest => do
          let (_, rest) ← readEscape? inner.switches rest
          readGroups? steps (inner.add 0) outer names rest
      | '\x7b' :: _ => none
      | c :: rest =>
          if c = '*' || c = '+' || c = '?' then do
            let rest := if rest.head? = some '?' then rest.drop 1 else rest
            readGroups? steps (← inner.repeat?) outer names rest
          else if c = '.' && inner.switches.bytewise then none
          else readGroups? steps (inner.add 0) outer names rest

def isWellFormed (text : List Char) : Bool :=
  match readGroups? (text.length + 1) (.start .initial) [] [] text with
  | some depth => depth ≤ maxDepth
  | none => false

/-- Whether a text is a decimal number without a sign, whole or not, or a word for one. -/
def isNumber (text : List Char) : Bool :=
  let whole := text.takeWhile Char.isDigit
  let rest := text.drop whole.length
  let (fraction, rest) :=
    match rest with
    | '.' :: rest => (rest.takeWhile Char.isDigit, rest.dropWhile Char.isDigit)
    | rest => ([], rest)
  let exponent :=
    match rest with
    | [] => true
    | e :: '-' :: digits => (e = 'e' || e = 'E') && !digits.isEmpty && digits.all Char.isDigit
    | e :: '+' :: digits => (e = 'e' || e = 'E') && !digits.isEmpty && digits.all Char.isDigit
    | e :: digits => (e = 'e' || e = 'E') && !digits.isEmpty && digits.all Char.isDigit
  !(whole.isEmpty && fraction.isEmpty) && exponent
    || ["inf", "infinity", "nan"].contains (String.ofList (text.map Char.toLower))

end Pattern

/-- Whether a value that a filter asks for is well formed: a pattern, or a number, which a plus sign
in front keeps from being one. -/
def isPattern (text : List Char) : Bool :=
  Pattern.isWellFormed text
    || (match text with
      | '+' :: rest => Pattern.isNumber rest
      | _ => false)

end Preflight.Log
