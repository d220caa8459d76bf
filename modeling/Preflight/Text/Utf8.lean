/-!
UTF-8 text from bytes.

Bytes are taken one at a time. The bytes taken since the last whole character are kept, and each
new byte either completes them to a character, extends them to a longer beginning of one, or shows
that they are none. So a refusal knows where the sound text ends, and how many bytes after that
point still looked like a character.
-/

namespace Preflight.Text.Utf8

/-- Why bytes are not UTF-8: at `index`, where the sound text ends, stand `length` bytes of a
character that breaks off, or the input ends before the character does. -/
inductive Fault where
  | malformed (index length : Nat)
  | truncated (index : Nat)
  deriving DecidableEq, Repr

def Fault.message : Fault → String
  | .malformed index length =>
      "invalid utf-8 sequence of " ++ toString length ++ " bytes from index " ++ toString index
  | .truncated index => "incomplete utf-8 byte sequence from index " ++ toString index

/-- A byte of the form `10xxxxxx`. -/
def isContinuation (b : UInt8) : Bool := 0x80 ≤ b && b ≤ 0xBF

/-- Whether `b` may follow `lead`. Four leads narrow the choice: `E0` and `F0` must not begin an
overlong form, `ED` no surrogate, and `F4` nothing above the last code point. -/
def isSecond (lead b : UInt8) : Bool :=
  if lead == 0xE0 then 0xA0 ≤ b && b ≤ 0xBF
  else if lead == 0xED then 0x80 ≤ b && b ≤ 0x9F
  else if lead == 0xF0 then 0x90 ≤ b && b ≤ 0xBF
  else if lead == 0xF4 then 0x80 ≤ b && b ≤ 0x8F
  else isContinuation b

def isLeadOfTwo (b : UInt8) : Bool := 0xC2 ≤ b && b ≤ 0xDF

def isLeadOfThree (b : UInt8) : Bool := 0xE0 ≤ b && b ≤ 0xEF

def isLeadOfFour (b : UInt8) : Bool := 0xF0 ≤ b && b ≤ 0xF4

/-- The six bits that a continuation byte carries. -/
def payload (b : UInt8) : Nat := b.toNat % 64

/-- The character that exactly these bytes stand for. -/
def char? : List UInt8 → Option Char
  | [a] => if a < 0x80 then some (Char.ofNat a.toNat) else none
  | [a, b] =>
      if isLeadOfTwo a && isSecond a b then
        some (Char.ofNat (a.toNat % 32 * 64 + payload b))
      else none
  | [a, b, c] =>
      if isLeadOfThree a && isSecond a b && isContinuation c then
        some (Char.ofNat ((a.toNat % 16 * 64 + payload b) * 64 + payload c))
      else none
  | [a, b, c, d] =>
      if isLeadOfFour a && isSecond a b && isContinuation c && isContinuation d then
        some (Char.ofNat (((a.toNat % 8 * 64 + payload b) * 64 + payload c) * 64 + payload d))
      else none
  | _ => none

/-- Whether these bytes begin a character without ending it. -/
def isPartial : List UInt8 → Bool
  | [a] => isLeadOfTwo a || isLeadOfThree a || isLeadOfFour a
  | [a, b] => (isLeadOfThree a || isLeadOfFour a) && isSecond a b
  | [a, b, c] => isLeadOfFour a && isSecond a b && isContinuation c
  | _ => false

/-- Decode `bytes`, when `seen` are the bytes taken since the last whole character and `index` is
where they begin. -/
def decodeFrom (seen : List UInt8) (index : Nat) : List UInt8 → Except Fault (List Char)
  | [] => if seen.isEmpty then .ok [] else .error (.truncated index)
  | b :: rest =>
      let taken := seen ++ [b]
      match char? taken with
      | some c => (decodeFrom [] (index + taken.length) rest).map (c :: ·)
      | none =>
          if isPartial taken then decodeFrom taken index rest
          else .error (.malformed index (max 1 seen.length))

def decode (bytes : List UInt8) : Except Fault String :=
  (decodeFrom [] 0 bytes).map String.ofList

def encode (text : String) : List UInt8 :=
  text.toList.flatMap String.utf8EncodeChar

def size (chars : List Char) : Nat :=
  chars.foldr (fun c bytes => c.utf8Size + bytes) 0

/-- The characters that so many bytes encode, and those behind them, if no character is cut
apart. -/
def splitAt? : Nat → List Char → Option (List Char × List Char)
  | 0, chars => some ([], chars)
  | _, [] => none
  | bytes, c :: rest =>
      if c.utf8Size ≤ bytes then
        (splitAt? (bytes - c.utf8Size) rest).map fun parts => (c :: parts.1, parts.2)
      else none

/-- The characters from one byte up to another one, if no character is cut apart. -/
def slice? (first last : Nat) (chars : List Char) : Option (List Char) := do
  let (_, behind) ← splitAt? first chars
  let (between, _) ← splitAt? (last - first) behind
  return between

end Preflight.Text.Utf8
