import Preflight.Json.Value

/-!
The grammar of JSON documents, as the relation between a value and the texts that spell it.

Gaps may stand between any two tokens, and a character of a text may be written as it is, by a
letter behind a backslash, or by the numbers of its code units in hexadecimal digits of either case.
Whole numbers are written in decimal without zeros in front. What follows the first item of an array
or the first member of an object is spelled up to the closing bracket, the bracket included.
-/

namespace Preflight.Json

/-- A gap: any number of the characters that may stand between tokens. -/
def IsGap (text : List Char) : Prop :=
  ∀ c ∈ text, c = ' ' ∨ c = '\n' ∨ c = '\t' ∨ c = '\r'

/-! ## Texts -/

/-- The upper-case hexadecimal digit of a number below sixteen. -/
def upperHexDigit (n : Nat) : Char :=
  if n < 10 then Char.ofNat ('0'.toNat + n) else Char.ofNat ('A'.toNat + (n - 10))

/-- Whether a character is a hexadecimal digit, of either case, that stands for a number. -/
def IsHexDigit (n : Nat) (digit : Char) : Prop :=
  digit = lowerHexDigit n ∨ digit = upperHexDigit n

/-- The code units of a character: its number, or the two halves of a surrogate pair. -/
def codeUnits (c : Char) : List Nat :=
  if c.toNat < 0x10000 then [c.toNat]
  else [0xD800 + (c.toNat - 0x10000) / 0x400, 0xDC00 + (c.toNat - 0x10000) % 0x400]

/-- The letters that stand for characters behind a backslash. -/
def shortEscapes : List (Char × Char) :=
  [('"', '"'), ('\\', '\\'), ('/', '/'), ('b', '\x08'), ('f', '\x0c'), ('n', '\n'), ('r', '\r'),
    ('t', '\t')]

/-- Code units, each as `\u` and four digits. -/
inductive UnitsSpelling : List Nat → List Char → Prop
  | nil : UnitsSpelling [] []
  | cons {unit : Nat} {units : List Nat} {a b c d : Char} {others : List Char} :
    IsHexDigit (unit / 0x1000) a → IsHexDigit (unit / 0x100 % 0x10) b →
    IsHexDigit (unit / 0x10 % 0x10) c → IsHexDigit (unit % 0x10) d →
    UnitsSpelling units others →
    UnitsSpelling (unit :: units) ('\\' :: 'u' :: a :: b :: c :: d :: others)

/-- The ways to write one character inside a text. -/
inductive CharSpelling : Char → List Char → Prop
  | raw {c : Char} : 0x20 ≤ c.toNat → c ≠ '"' → c ≠ '\\' → CharSpelling c [c]
  | short {c letter : Char} : (letter, c) ∈ shortEscapes → CharSpelling c ['\\', letter]
  | units {c : Char} {text : List Char} : UnitsSpelling (codeUnits c) text → CharSpelling c text

/-- Characters one after another, up to the closing quote. -/
inductive CharsSpelling : List Char → List Char → Prop
  | close : CharsSpelling [] ['"']
  | cons {c : Char} {cs this others : List Char} :
    CharSpelling c this → CharsSpelling cs others → CharsSpelling (c :: cs) (this ++ others)

/-! ## Values -/

mutual

/-- The texts that spell a value, without a gap in front or behind. -/
inductive Spelling : Value → List Char → Prop
  | null : Spelling .null ['n', 'u', 'l', 'l']
  | true : Spelling (.boolean true) ['t', 'r', 'u', 'e']
  | false : Spelling (.boolean false) ['f', 'a', 'l', 's', 'e']
  | number {n : Nat} : Spelling (.number n) (Nat.toDigits 10 n)
  | text {text : String} {body : List Char} :
    CharsSpelling text.toList body → Spelling (.text text) ('"' :: body)
  | emptyArray {gap : List Char} : IsGap gap → Spelling (.array []) ('[' :: (gap ++ [']']))
  | array {item : Value} {items : List Value} {gap first others : List Char} :
    IsGap gap → Spelling item first → ItemsSpelling items others →
    Spelling (.array (item :: items)) ('[' :: (gap ++ first ++ others))
  | emptyObject {gap : List Char} : IsGap gap → Spelling (.object []) ('\x7b' :: (gap ++ ['\x7d']))
  | object {member : String × Value} {members : List (String × Value)}
    {gap first others : List Char} :
    IsGap gap → MemberSpelling member first → MembersSpelling members others →
    Spelling (.object (member :: members)) ('\x7b' :: (gap ++ first ++ others))

/-- The items of an array after the first, and its end. -/
inductive ItemsSpelling : List Value → List Char → Prop
  | close {gap : List Char} : IsGap gap → ItemsSpelling [] (gap ++ [']'])
  | next {item : Value} {items : List Value} {before gap this others : List Char} :
    IsGap before → IsGap gap → Spelling item this → ItemsSpelling items others →
    ItemsSpelling (item :: items) (before ++ ',' :: (gap ++ this ++ others))

/-- One member of an object. -/
inductive MemberSpelling : String × Value → List Char → Prop
  | mk {key : String} {value : Value} {name before gap this : List Char} :
    CharsSpelling key.toList name → IsGap before → IsGap gap → Spelling value this →
    MemberSpelling (key, value) ('"' :: (name ++ before ++ ':' :: (gap ++ this)))

/-- The members of an object after the first, and its end. -/
inductive MembersSpelling : List (String × Value) → List Char → Prop
  | close {gap : List Char} : IsGap gap → MembersSpelling [] (gap ++ ['\x7d'])
  | next {member : String × Value} {members : List (String × Value)}
    {before gap this others : List Char} :
    IsGap before → IsGap gap → MemberSpelling member this → MembersSpelling members others →
    MembersSpelling (member :: members) (before ++ ',' :: (gap ++ this ++ others))

end

/-- The documents that hold a value: gaps may stand before and behind it. -/
inductive DocumentSpelling : Value → List Char → Prop
  | mk {value : Value} {before this after : List Char} :
    IsGap before → Spelling value this → IsGap after →
    DocumentSpelling value (before ++ this ++ after)

/-! ## Gaps between tokens -/

theorem IsGap.nil : IsGap [] := fun _ h => absurd h List.not_mem_nil

theorem IsGap.singleton {c : Char} (h : c = ' ' ∨ c = '\n' ∨ c = '\t' ∨ c = '\r') : IsGap [c] := by
  intro d hd
  rw [List.mem_singleton] at hd
  rwa [hd]

/-- A new line with its indentation is a gap. -/
theorem isGap_newLine (level : Nat) : IsGap (newLine level).toList := by
  intro c hc
  rw [newLine, String.toList_ofList, List.mem_cons] at hc
  rcases hc with rfl | hc
  · exact .inr (.inl rfl)
  · exact .inl (List.eq_of_mem_replicate hc)

/-! ## Induction over values -/

/-- What holds of the leaves, of an array when it holds of its items, and of an object when it holds
of its members, holds of every value. -/
theorem Value.induction {motive : Value → Prop} (null : motive .null)
    (boolean : ∀ value, motive (.boolean value)) (number : ∀ value, motive (.number value))
    (text : ∀ value, motive (.text value))
    (array : ∀ items, (∀ item ∈ items, motive item) → motive (.array items))
    (object : ∀ members, (∀ member ∈ members, motive member.2) → motive (.object members))
    (value : Value) : motive value := by
  refine Value.rec (motive_1 := motive) (motive_2 := fun items => ∀ item ∈ items, motive item)
    (motive_3 := fun members => ∀ member ∈ members, motive member.2)
    (motive_4 := fun member => motive member.2) null boolean number text array object
    ?_ ?_ ?_ ?_ ?_ value
  · exact fun _ h => absurd h List.not_mem_nil
  · exact fun _ _ first others => List.forall_mem_cons.2 ⟨first, others⟩
  · exact fun _ h => absurd h List.not_mem_nil
  · exact fun _ _ first others => List.forall_mem_cons.2 ⟨first, others⟩
  · exact fun _ _ h => h

end Preflight.Json
