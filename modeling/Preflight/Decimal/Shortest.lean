/-!
The shortest decimal that still names a double-precision number.

A positive finite number is `m · 2^e`, and the real numbers that round to it form an interval
around it, ends included exactly when `m` is even. For one digit, two, and so on, the search looks
at the two neighbours of the number among the decimals with that many digits; the first that lies
in the interval wins, of two the nearer, and of two equally near the one with an even last digit.
Seventeen digits always suffice. All comparisons are made in whole numbers.
-/

namespace Preflight.Decimal

/-- A positive number `mantissa · 2^exponent` with the width of the interval below it: at a power
of two the numbers below stand half as far apart. -/
structure Binary where
  mantissa : Nat
  exponent : Int
  narrowBelow : Bool
  deriving DecidableEq, Repr

/-- The magnitude of a finite number. -/
def Binary.ofFloat (x : Float) : Binary :=
  let bits : Nat := x.toBits.toNat
  let fraction : Nat := bits % Nat.pow 2 52
  let biased : Nat := bits / Nat.pow 2 52 % Nat.pow 2 11
  if biased = 0 then ⟨fraction, -1074, false⟩
  else ⟨Nat.pow 2 52 + fraction, biased - 1075, fraction == 0 && 1 < biased⟩

/-- Whether the sign bit of a number is set. -/
def isNegative (x : Float) : Bool :=
  x.toBits.toNat / Nat.pow 2 63 = 1

/-- A decimal `digits · 10^exponent`. -/
structure Tens where
  digits : Nat
  exponent : Int
  deriving DecidableEq, Repr

/-- `a · 10^d` and `b · 2^e` on a common whole scale, for comparing them. -/
def onOneScale (a : Nat) (d : Int) (b : Nat) (e : Int) : Nat × Nat :=
  (a * Nat.pow 10 d.toNat * Nat.pow 2 (-e).toNat, b * Nat.pow 2 e.toNat * Nat.pow 10 (-d).toNat)

/-- Whether a decimal rounds to the number. The ends of the interval are counted in quarters of the
distance to the next number. -/
def Binary.admits (x : Binary) (t : Tens) : Bool :=
  let low := 4 * x.mantissa - (if x.narrowBelow then 1 else 2)
  let high := 4 * x.mantissa + 2
  let (a, lowest) := onOneScale t.digits t.exponent low (x.exponent - 2)
  let (b, highest) := onOneScale t.digits t.exponent high (x.exponent - 2)
  if x.mantissa % 2 = 0 then lowest ≤ a && b ≤ highest else lowest < a && b < highest

/-- The greatest decimal with the last digit at `10^exponent` that is not above the number. -/
def Binary.floorAt (x : Binary) (exponent : Int) : Nat :=
  x.mantissa * Nat.pow 2 x.exponent.toNat * Nat.pow 10 (-exponent).toNat
    / (Nat.pow 2 (-x.exponent).toNat * Nat.pow 10 exponent.toNat)

/-- How the number compares with the middle between two neighbouring decimals. -/
def Binary.compareMiddle (x : Binary) (t : Tens) : Ordering :=
  let (middle, value) := onOneScale (2 * t.digits + 1) t.exponent (2 * x.mantissa) x.exponent
  compare value middle

/-- The better of the two neighbours at `10^exponent`, if one of them rounds to the number. -/
def Binary.pickAt (x : Binary) (exponent : Int) : Option Tens :=
  let below : Tens := ⟨x.floorAt exponent, exponent⟩
  let above : Tens := ⟨below.digits + 1, exponent⟩
  match x.admits below, x.admits above with
  | true, true =>
      match x.compareMiddle below with
      | .lt => some below
      | .gt => some above
      | .eq => some (if below.digits % 2 = 0 then below else above)
  | true, false => some below
  | false, true => some above
  | false, false => none

/-- The search over ever finer grids, from the grid at `10^exponent` down. -/
def Binary.search (x : Binary) : Nat → Int → Tens
  | 0, exponent => ⟨x.floorAt exponent, exponent⟩
  | grids + 1, exponent => (x.pickAt exponent).getD (x.search grids (exponent - 1))

/-- The number of digits of a whole number. -/
def digitCount (n : Nat) : Nat := (Nat.toDigits 10 n).length

/-- The exponent of the highest digit of the number in decimal notation. -/
def Binary.highest (x : Binary) : Int :=
  if 0 < x.floorAt 0 then (digitCount (x.floorAt 0) : Int) - 1
  else
    let scaled := x.floorAt (-400)
    (digitCount scaled : Int) - 401

/-- The shortest decimal that rounds to a positive number. -/
def Binary.shortest (x : Binary) : Tens :=
  x.search 18 (x.highest + 1)

/-- A decimal without trailing zeros. -/
def Tens.trim (t : Tens) : Tens :=
  let digits := (Nat.toDigits 10 t.digits).reverse
  let zeros := (digits.takeWhile (· == '0')).length
  if t.digits = 0 then t else ⟨t.digits / Nat.pow 10 zeros, t.exponent + zeros⟩

/-- How a decimal is written: positionally while the exponent of its first digit lies in a range,
else with an exponent that always has its sign. -/
structure Form where
  lowest : Int
  highest : Int

/-- The form of diagnostics: positional from `0.00001` up to, not including, `10^16`. -/
def Form.diagnostic : Form := ⟨-5, 15⟩

/-- The digits of a decimal with the point put in; a whole number gets `.0`. -/
def Tens.positional (t : Tens) : String :=
  let digits := Nat.toDigits 10 t.digits
  if 0 ≤ t.exponent then
    String.ofList (digits ++ List.replicate t.exponent.toNat '0') ++ ".0"
  else
    let places := (-t.exponent).toNat
    let padded := List.replicate (places + 1 - digits.length) '0' ++ digits
    let whole := padded.length - places
    String.ofList (padded.take whole ++ '.' :: padded.drop whole)

/-- The first digit of a decimal, the others behind a point, and the exponent. -/
def Tens.scientific (t : Tens) : String :=
  let digits := Nat.toDigits 10 t.digits
  let exponent := t.exponent + digits.length - 1
  let behind := if digits.length ≤ 1 then [] else '.' :: digits.drop 1
  String.ofList (digits.take 1 ++ behind) ++ "e"
    ++ (if exponent < 0 then "-" else "+") ++ toString exponent.natAbs

/-- A decimal in a form. -/
def Tens.write (form : Form) (t : Tens) : String :=
  let leading := t.exponent + digitCount t.digits - 1
  if form.lowest ≤ leading && leading ≤ form.highest then t.positional else t.scientific

/-- A finite number in a form; zero is `0.0`, and a set sign bit shows as a minus sign. -/
def writeFloat (form : Form) (x : Float) : String :=
  let sign := if isNegative x then "-" else ""
  let binary := Binary.ofFloat x
  sign ++ if binary.mantissa = 0 then "0.0" else (binary.shortest.trim).write form

end Preflight.Decimal
