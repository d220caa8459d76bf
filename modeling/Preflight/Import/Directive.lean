import Preflight.Text.Blank

/-!
Import directives in a source text: the word `import`, blanks, and a target between quotes of
either kind.

The scan takes the text character by character. Where a directive begins it records the target and
passes over the directive, so directives never overlap and the leftmost come first. Nothing else of
the language is looked at: comments, strings and unfinished lines are plain text.
-/

namespace Preflight.Import

def keyword : List Char := ['i', 'm', 'p', 'o', 'r', 't']

/-- Whether a character can open or close a target. -/
def isQuote (c : Char) : Bool := c == '\'' || c == '"'

def dropWord? : List Char → List Char → Option (List Char)
  | [], rest => some rest
  | _ :: _, [] => none
  | letter :: letters, c :: rest => if c = letter then dropWord? letters rest else none

theorem dropWord?_eq_some_iff {word text rest : List Char} :
    dropWord? word text = some rest ↔ text = word ++ rest := by
  induction word generalizing text with
  | nil => cases text <;> simp [dropWord?]
  | cons letter letters ih =>
      cases text with
      | nil => simp [dropWord?]
      | cons c others =>
          by_cases h : c = letter
          · simp [dropWord?, h, ih]
          · simp [dropWord?, h]

/-- The target of a text that goes on after the opening quote, and the text after the closing
one. -/
def target? (text : List Char) : Option (List Char × List Char) :=
  let target := text.takeWhile fun c => !isQuote c
  match target, text.dropWhile fun c => !isQuote c with
  | _ :: _, _ :: rest => some (target, rest)
  | _, _ => none

/-- The directive at the beginning of a text: its target and the text after it. -/
def directive? (text : List Char) : Option (List Char × List Char) :=
  match dropWord? keyword text with
  | none => none
  | some rest =>
      match rest.takeWhile Text.isBlank, rest.dropWhile Text.isBlank with
      | _ :: _, quote :: after => if isQuote quote then target? after else none
      | _, _ => none

/-- The targets of a text whose first `inside` characters belong to a directive already
recorded. -/
def targetsFrom : Nat → List Char → List (List Char)
  | _, [] => []
  | inside + 1, _ :: rest => targetsFrom inside rest
  | 0, c :: rest =>
      match directive? (c :: rest) with
      | some (target, after) => target :: targetsFrom (rest.length - after.length) rest
      | none => targetsFrom 0 rest

/-- The targets of all import directives of a text, in order. -/
def targets (text : String) : List String :=
  (targetsFrom 0 text.toList).map String.ofList

end Preflight.Import
