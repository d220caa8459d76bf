import Preflight.Json.Token

/-!
Numbers of a JSON document.

A layout holds no numbers, so a number is only ever read to be named in a refusal. A whole number
that fits in sixty-four bits is kept as it is. Any other is rounded: the leading digits that fit in
sixty-four bits make a double-precision number, which is then multiplied or divided by a power of
ten. Digits that no longer fit are dropped, and a dropped digit before the point counts in the
exponent.
-/

namespace Preflight.Json

/-- The greatest whole number of sixty-four bits. -/
def maxWhole : Nat := 0xFFFFFFFFFFFFFFFF

/-- The greatest exponent a number may write. -/
def maxExponent : Nat := 0x7FFFFFFF

/-- Take digits into a number while the result stays within `limit`, and leave the rest. -/
def takeDigits (limit : Nat) : Nat → List Char → Nat × List Char
  | value, [] => (value, [])
  | value, c :: rest =>
      if c.isDigit && decide (value * 10 + Text.digitValue c ≤ limit) then
        takeDigits limit (value * 10 + Text.digitValue c) rest
      else (value, c :: rest)

def startsWithDigit : List Char → Bool
  | c :: _ => c.isDigit
  | [] => false

/-- The double-precision number nearest to a power of ten. -/
def powerOfTen (exponent : Nat) : Float := Float.ofScientific 1 false exponent

/-- Divide by a power of ten in steps of at most `10^308`, the greatest there is. A number that has
become zero stays so. -/
def divideByPower : Nat → Float → Nat → Float
  | 0, x, exponent => x / powerOfTen exponent
  | steps + 1, x, exponent =>
      if exponent ≤ 308 then x / powerOfTen exponent
      else if x == 0.0 then x
      else divideByPower steps (x / powerOfTen 308) (exponent - 308)

/-- `digits · 10^exponent` as a double-precision number, unless that is too large. -/
def scale? (digits : Nat) (exponent : Int) : Option Float :=
  let x := Float.ofNat digits
  if exponent < 0 then some (divideByPower 3 x exponent.natAbs)
  else if exponent ≤ 308 then
    let scaled := x * powerOfTen exponent.toNat
    if scaled.isInf then none else some scaled
  else if digits = 0 then some x
  else none

/-- Finish a number once its digits, its exponent and its sign are known. -/
def finishReal (negative : Bool) (digits : Nat) (exponent : Int) : Reader Number := fun rest =>
  match scale? digits exponent with
  | some x => .ok (.real (if negative then -x else x), rest)
  | none => stopBefore .numberTooLarge rest

/-- Read the exponent of a number once its letter has been taken. -/
def readExponent (negative : Bool) (digits : Nat) (exponent : Int) : Reader Number := fun chars =>
  let (lowered, rest) :=
    match chars with
    | '+' :: rest => (false, rest)
    | '-' :: rest => (true, rest)
    | rest => (false, rest)
  match rest with
  | [] => stopBefore .endOfValue []
  | c :: after =>
      if !c.isDigit then stopAfter .invalidNumber (c :: after)
      else
        let (written, after) := takeDigits maxExponent (Text.digitValue c) after
        if startsWithDigit after then
          if digits ≠ 0 ∧ !lowered then stopBefore .numberTooLarge (after.drop 1)
          else .ok (.real (if negative then -0.0 else 0.0), after.dropWhile Char.isDigit)
        else
          finishReal negative digits
            (if lowered then exponent - written else exponent + written) after

/-- Read the digits after a point and whatever follows them; `exponent` counts the digits dropped
before the point. -/
def readFraction (negative : Bool) (digits : Nat) (exponent : Int) : Reader Number := fun chars =>
  let (kept, rest) := takeDigits maxWhole digits chars
  let places := chars.length - rest.length
  if places = 0 ∧ !startsWithDigit rest then
    match rest with
    | [] => stopAfter .endOfValue []
    | c :: after => stopAfter .invalidNumber (c :: after)
  else
    match rest.dropWhile Char.isDigit with
    | 'e' :: after => readExponent negative kept (exponent - places) after
    | 'E' :: after => readExponent negative kept (exponent - places) after
    | after => finishReal negative kept (exponent - places) after

/-- Finish a number whose digits before a point have been read; `dropped` of them did not fit. -/
def readTail (negative : Bool) (digits dropped : Nat) : Reader Number
  | '.' :: rest => readFraction negative digits dropped rest
  | 'e' :: rest => readExponent negative digits dropped rest
  | 'E' :: rest => readExponent negative digits dropped rest
  | rest =>
      if dropped ≠ 0 then finishReal negative digits dropped rest
      else if !negative then .ok (.whole digits, rest)
      else if digits = 0 ∨ 0x8000000000000000 < digits then .ok (.real (-Float.ofNat digits), rest)
      else .ok (.whole (-digits), rest)

/-- Read a number after its sign. A zero may not be followed by another digit. -/
def readMagnitude (negative : Bool) : Reader Number
  | [] => stopBefore .endOfValue []
  | '0' :: rest =>
      if startsWithDigit rest then stopAfter .invalidNumber rest else readTail negative 0 0 rest
  | c :: rest =>
      if !c.isDigit then stopAfter .invalidNumber (c :: rest)
      else
        let (digits, after) := takeDigits maxWhole (Text.digitValue c) rest
        let beyond := after.dropWhile Char.isDigit
        readTail negative digits (after.length - beyond.length) beyond

/-- Read a number, when a minus sign or a digit comes next. -/
def readNumber : Reader Number
  | '-' :: rest => readMagnitude true rest
  | rest => readMagnitude false rest

end Preflight.Json
