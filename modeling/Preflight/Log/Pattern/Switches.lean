import Preflight.Text.Blank

/-!
Switches of a pattern: letters that a pattern can turn on and off for the rest of a group.

Only two of them matter for the form of a pattern. One lets blanks and comments stand between its
signs, and one makes it a pattern for characters; without that it is a pattern for bytes, which must
not fit any part of a character alone.
-/

namespace Preflight.Log.Pattern

/-- The switches that matter for the form of a pattern. -/
structure Switches where
  /-- Whether blanks and comments between the signs do not count. -/
  spaced : Bool
  /-- Whether the pattern is one for bytes. -/
  bytewise : Bool
  deriving DecidableEq, Repr

/-- The text behind the blanks and comments that it begins with. A comment goes from `#` to the end
of its line. -/
def behindGaps (inComment : Bool) : List Char → List Char
  | [] => []
  | c :: rest =>
      if inComment then behindGaps (c != '\n') rest
      else if Text.isBlank c then behindGaps false rest
      else if c = '#' then behindGaps true rest
      else c :: rest

namespace Switches

def initial : Switches := ⟨false, false⟩

def skip (switches : Switches) (text : List Char) : List Char :=
  if switches.spaced then behindGaps false text else text

/-- The letters of all the switches, and the dash that has those behind it that are turned off. -/
def letters : List Char := "imsUuRx-".toList

/-- Whether letters are switches, each at most once, and not with a dash that has none behind it. -/
def areLetters (written : List Char) : Bool :=
  written.all letters.contains && written.eraseDups.length = written.length
    && written.getLast? != some '-'

/-- The switches after some of them have been turned on and others off. -/
def turn (switches : Switches) (written : List Char) : Switches :=
  let on := written.takeWhile (· != '-')
  let off := written.dropWhile (· != '-')
  { spaced := (switches.spaced || on.contains 'x') && !off.contains 'x'
    bytewise := (switches.bytewise && !on.contains 'u') || off.contains 'u' }

end Switches

end Preflight.Log.Pattern
