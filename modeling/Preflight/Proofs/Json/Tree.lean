import Preflight.Proofs.Json.Reading

/-!
The whole grammar of JSON, with every kind of number.

`Value` has the numbers that reports are written with. A text that anybody may have written can hold
others, so a `Tree` keeps a number as the characters that write it. The grammar is the one of
`Spelling` otherwise, and it is unambiguous: no text spells two trees, however gaps and escapes are
chosen. So what is said of the tree of a text is said of the text.
-/

namespace Preflight.Json

/-- A JSON value in which numbers are kept as they are written. -/
inductive Tree where
  | null
  | boolean (value : Bool)
  | number (literal : List Char)
  | text (value : String)
  | array (items : List Tree)
  | object (members : List (String × Tree))

/-! ## Numbers -/

def IsDigits (text : List Char) : Prop :=
  text ≠ [] ∧ ∀ c ∈ text, c.isDigit = true

/-- Digits without zeros in front. -/
inductive IsWhole : List Char → Prop
  | zero : IsWhole ['0']
  | digits {c : Char} {others : List Char} :
    c.isDigit = true → c ≠ '0' → (∀ d ∈ others, d.isDigit = true) → IsWhole (c :: others)

inductive IsFraction : List Char → Prop
  | none : IsFraction []
  | some {digits : List Char} : IsDigits digits → IsFraction ('.' :: digits)

inductive IsExponent : List Char → Prop
  | none : IsExponent []
  | some {letter : Char} {sign digits : List Char} :
    letter = 'e' ∨ letter = 'E' → sign = [] ∨ sign = ['+'] ∨ sign = ['-'] → IsDigits digits →
    IsExponent (letter :: (sign ++ digits))

inductive IsNumber : List Char → Prop
  | mk {sign whole fraction exponent : List Char} :
    sign = [] ∨ sign = ['-'] → IsWhole whole → IsFraction fraction → IsExponent exponent →
    IsNumber (sign ++ (whole ++ (fraction ++ exponent)))

/-! ## Lists -/

/-- The items of a list after the first, each behind a comma, and the closing character. -/
inductive FollowingSpelling {α : Type} (spells : α → List Char → Prop) (closing : Char) :
    List α → List Char → Prop
  | close {gap : List Char} : IsGap gap → FollowingSpelling spells closing [] (gap ++ [closing])
  | next {item : α} {items : List α} {before gap this others : List Char} :
    IsGap before → IsGap gap → spells item this → FollowingSpelling spells closing items others →
    FollowingSpelling spells closing (item :: items) (before ++ ',' :: (gap ++ (this ++ others)))

/-- The items of a list, and the closing character. -/
inductive EnclosedSpelling {α : Type} (spells : α → List Char → Prop) (closing : Char) :
    List α → List Char → Prop
  | close {gap : List Char} : IsGap gap → EnclosedSpelling spells closing [] (gap ++ [closing])
  | first {item : α} {items : List α} {gap this others : List Char} :
    IsGap gap → spells item this → FollowingSpelling spells closing items others →
    EnclosedSpelling spells closing (item :: items) (gap ++ (this ++ others))

/-! ## Trees -/

namespace Tree

mutual

/-- The texts that spell a tree, without a gap in front or behind. -/
inductive Spelling : Tree → List Char → Prop
  | null : Spelling .null ['n', 'u', 'l', 'l']
  | true : Spelling (.boolean true) ['t', 'r', 'u', 'e']
  | false : Spelling (.boolean false) ['f', 'a', 'l', 's', 'e']
  | number {literal : List Char} : IsNumber literal → Spelling (.number literal) literal
  | text {text : String} {body : List Char} :
    CharsSpelling text.toList body → Spelling (.text text) ('"' :: body)
  | array {items : List Tree} {text : List Char} :
    EnclosedSpelling Spelling ']' items text → Spelling (.array items) ('[' :: text)
  | object {members : List (String × Tree)} {text : List Char} :
    EnclosedSpelling MemberSpelling '\x7d' members text →
    Spelling (.object members) ('\x7b' :: text)

/-- One member of an object. -/
inductive MemberSpelling : String × Tree → List Char → Prop
  | mk {key : String} {value : Tree} {name before gap this : List Char} :
    CharsSpelling key.toList name → IsGap before → IsGap gap → Spelling value this →
    MemberSpelling (key, value) ('"' :: (name ++ (before ++ ':' :: (gap ++ this))))

end

/-- The documents that hold a tree: gaps may stand before and behind it. -/
inductive Document : Tree → List Char → Prop
  | mk {tree : Tree} {before this after : List Char} :
    IsGap before → Spelling tree this → IsGap after → Document tree (before ++ this ++ after)

/-- What holds of the leaves, of an array when it holds of its items, and of an object when it holds
of its members, holds of every tree. -/
theorem induction {motive : Tree → Prop} (null : motive .null)
    (boolean : ∀ value, motive (.boolean value)) (number : ∀ literal, motive (.number literal))
    (text : ∀ value, motive (.text value))
    (array : ∀ items, (∀ item ∈ items, motive item) → motive (.array items))
    (object : ∀ members, (∀ member ∈ members, motive member.2) → motive (.object members))
    (tree : Tree) : motive tree := by
  refine Tree.rec (motive_1 := motive) (motive_2 := fun items => ∀ item ∈ items, motive item)
    (motive_3 := fun members => ∀ member ∈ members, motive member.2)
    (motive_4 := fun member => motive member.2) null boolean number text array object
    ?_ ?_ ?_ ?_ ?_ tree
  · exact fun _ h => absurd h List.not_mem_nil
  · exact fun _ _ first others => List.forall_mem_cons.2 ⟨first, others⟩
  · exact fun _ h => absurd h List.not_mem_nil
  · exact fun _ _ first others => List.forall_mem_cons.2 ⟨first, others⟩
  · exact fun _ _ h => h

end Tree

/-! ## Where numbers end -/

/-- The characters that numbers are written with. -/
def isNumberChar (c : Char) : Bool :=
  c.isDigit || c == '-' || c == '+' || c == '.' || c == 'e' || c == 'E'

/-- Whether a text could go on with a number. -/
def continuesNumber : List Char → Bool
  | [] => false
  | c :: _ => isNumberChar c

theorem isNumberChar_of_isDigit {c : Char} (digit : c.isDigit = true) : isNumberChar c = true := by
  simp [isNumberChar, digit]

theorem IsNumber.isNumberChar {literal : List Char} (h : IsNumber literal) :
    ∀ c ∈ literal, isNumberChar c = true := by
  have ofDigits {text : List Char} (digits : ∀ c ∈ text, c.isDigit = true) :
      ∀ c ∈ text, Json.isNumberChar c = true :=
    fun c hc => isNumberChar_of_isDigit (digits c hc)
  have ofNone : ∀ c ∈ [], Json.isNumberChar c = true := fun _ h => absurd h List.not_mem_nil
  obtain ⟨hsign, hwhole, hfraction, hexponent⟩ := h
  simp only [List.forall_mem_append]
  refine ⟨?_, ?_, ?_, ?_⟩
  · rcases hsign with rfl | rfl
    · exact ofNone
    · exact List.forall_mem_singleton.2 rfl
  · cases hwhole with
    | zero => exact List.forall_mem_singleton.2 rfl
    | digits first _ others =>
      exact List.forall_mem_cons.2 ⟨isNumberChar_of_isDigit first, ofDigits others⟩
  · cases hfraction with
    | none => exact ofNone
    | some digits => exact List.forall_mem_cons.2 ⟨rfl, ofDigits digits.2⟩
  · cases hexponent with
    | none => exact ofNone
    | some letter sign digits =>
      simp only [List.forall_mem_cons, List.forall_mem_append]
      refine ⟨?_, ?_, ofDigits digits.2⟩
      · rcases letter with rfl | rfl <;> rfl
      · rcases sign with rfl | rfl | rfl
        · exact ofNone
        · exact List.forall_mem_singleton.2 rfl
        · exact List.forall_mem_singleton.2 rfl

/-- A number begins with its sign or a digit. -/
theorem IsNumber.exists_cons {literal : List Char} (h : IsNumber literal) :
    ∃ c others, literal = c :: others ∧ (c = '-' ∨ c.isDigit = true) := by
  obtain ⟨rfl | rfl, hwhole, -, -⟩ := h
  · cases hwhole with
    | zero => exact ⟨_, _, rfl, .inr rfl⟩
    | digits first _ _ => exact ⟨_, _, rfl, .inr first⟩
  · exact ⟨_, _, rfl, .inl rfl⟩

/-- A number ends where no character follows that could go on with it. -/
theorem IsNumber.takeWhile_append {literal rest : List Char} (h : IsNumber literal)
    (ended : continuesNumber rest = false) :
    (literal ++ rest).takeWhile Json.isNumberChar = literal := by
  have none : rest.takeWhile Json.isNumberChar = [] := by
    cases rest with
    | nil => rfl
    | cons c rest => exact List.takeWhile_cons_of_neg (Bool.eq_false_iff.1 ended)
  rw [List.takeWhile_append_of_pos h.isNumberChar, none, List.append_nil]

/-- A gap and a character that no number is written with do not go on with a number. -/
theorem continuesNumber_gap_cons {gap : List Char} {c : Char} (h : IsGap gap)
    (hc : isNumberChar c = false) (rest : List Char) :
    continuesNumber (gap ++ c :: rest) = false := by
  cases gap with
  | nil => exact hc
  | cons d gap =>
    rcases h d List.mem_cons_self with rfl | rfl | rfl | rfl <;> rfl

theorem continuesNumber_gap {gap : List Char} (h : IsGap gap) : continuesNumber gap = false := by
  cases gap with
  | nil => rfl
  | cons d gap =>
    rcases h d List.mem_cons_self with rfl | rfl | rfl | rfl <;> rfl

/-- What stands behind two gaps is the same when neither goes on with the gap. -/
theorem eq_of_gap_append {gap gap' text text' : List Char} (hgap : IsGap gap) (hgap' : IsGap gap')
    (h : skipGap text = text) (h' : skipGap text' = text') (same : gap ++ text = gap' ++ text') :
    text = text' := by
  have skipped := congrArg skipGap same
  rwa [skipGap_append hgap, skipGap_append hgap', h, h'] at skipped

/-! ## One reading -/

/-- Wherever a spelling of an item begins, no spelling of another item begins, and the item ends in
one place. What follows must not go on with a number, or it could belong to the item. -/
def Unambiguous {α : Type} (spells : α → List Char → Prop) (item : α) : Prop :=
  ∀ ⦃other : α⦄ ⦃text text' rest rest' : List Char⦄, spells item text → spells other text' →
    continuesNumber rest = false → continuesNumber rest' = false → text ++ rest = text' ++ rest' →
    item = other ∧ rest = rest'

/-- What is spelled begins neither with a gap nor with the closing character of a list. -/
def Opens {α : Type} (spells : α → List Char → Prop) (closing : Char) : Prop :=
  ∀ ⦃item : α⦄ ⦃text : List Char⦄, spells item text →
    ∃ c others, text = c :: others ∧ isGap c = false ∧ c ≠ closing

theorem Opens.skipGap {α : Type} {spells : α → List Char → Prop} {closing : Char}
    (opens : Opens spells closing) {item : α} {text : List Char} (h : spells item text)
    (rest : List Char) : skipGap (text ++ rest) = text ++ rest := by
  obtain ⟨c, others, rfl, noGap, -⟩ := opens h
  exact skipGap_cons noGap _

section Lists

variable {α : Type} {spells : α → List Char → Prop} {closing : Char}

/-- What follows an item goes on with no number. -/
theorem FollowingSpelling.continuesNumber (ends : isNumberChar closing = false) {items : List α}
    {text : List Char} (h : FollowingSpelling spells closing items text) (rest : List Char) :
    continuesNumber (text ++ rest) = false := by
  cases h with
  | close gap =>
    rw [List.append_assoc]
    exact continuesNumber_gap_cons gap ends rest
  | next before =>
    rw [List.append_assoc]
    exact continuesNumber_gap_cons before rfl _

variable (ends : isNumberChar closing = false) (noGap : isGap closing = false)
  (noComma : closing ≠ ',') (opens : Opens spells closing)

include ends noGap noComma opens

/-- The items after the first can be read in one way. -/
theorem FollowingSpelling.unique {items others : List α}
    (each : ∀ item ∈ items, Unambiguous spells item) {text text' rest rest' : List Char}
    (h : FollowingSpelling spells closing items text)
    (h' : FollowingSpelling spells closing others text') (same : text ++ rest = text' ++ rest') :
    items = others ∧ rest = rest' := by
  induction items generalizing others text text' with
  | nil =>
    cases h with
    | close gap =>
      cases h' with
      | close gap' =>
        simp only [List.append_assoc, List.singleton_append] at same
        have left := eq_of_gap_append gap gap' (skipGap_cons noGap _) (skipGap_cons noGap _) same
        exact ⟨rfl, (List.cons.inj left).2⟩
      | next before' =>
        simp only [List.append_assoc, List.cons_append, List.nil_append] at same
        have left := eq_of_gap_append gap before' (skipGap_cons noGap _) (skipGap_cons rfl _) same
        exact absurd (List.cons.inj left).1 noComma
  | cons item items ih =>
    obtain ⟨head, tail⟩ := List.forall_mem_cons.1 each
    cases h with
    | next before gap this spelled =>
      cases h' with
      | close gap' =>
        simp only [List.append_assoc, List.cons_append, List.nil_append] at same
        have left := eq_of_gap_append before gap' (skipGap_cons rfl _) (skipGap_cons noGap _) same
        exact absurd (List.cons.inj left).1.symm noComma
      | next before' gap' this' spelled' =>
        simp only [List.append_assoc, List.cons_append] at same
        have comma := eq_of_gap_append before before' (skipGap_cons rfl _) (skipGap_cons rfl _) same
        have left := eq_of_gap_append gap gap' (opens.skipGap this _) (opens.skipGap this' _)
          (List.cons.inj comma).2
        obtain ⟨rfl, left⟩ := head this this' (spelled.continuesNumber ends rest)
          (spelled'.continuesNumber ends rest') left
        obtain ⟨rfl, left⟩ := ih tail spelled spelled' left
        exact ⟨rfl, left⟩

/-- The items of a list can be read in one way. -/
theorem EnclosedSpelling.unique {items others : List α}
    (each : ∀ item ∈ items, Unambiguous spells item) {text text' rest rest' : List Char}
    (h : EnclosedSpelling spells closing items text)
    (h' : EnclosedSpelling spells closing others text') (same : text ++ rest = text' ++ rest') :
    items = others ∧ rest = rest' := by
  -- A closing character does not open an item.
  have ne {item : α} {this others rest rest' : List Char} (h : spells item this) :
      this ++ (others ++ rest) ≠ closing :: rest' := by
    obtain ⟨c, tail, rfl, -, noClosing⟩ := opens h
    intro same
    exact noClosing (List.cons.inj same).1
  cases h with
  | close gap =>
    cases h' with
    | close gap' =>
      simp only [List.append_assoc, List.singleton_append] at same
      have left := eq_of_gap_append gap gap' (skipGap_cons noGap _) (skipGap_cons noGap _) same
      exact ⟨rfl, (List.cons.inj left).2⟩
    | first gap' this' =>
      simp only [List.append_assoc, List.singleton_append] at same
      have left := eq_of_gap_append gap gap' (skipGap_cons noGap _) (opens.skipGap this' _) same
      exact absurd left.symm (ne this')
  | first gap this spelled =>
    cases h' with
    | close gap' =>
      simp only [List.append_assoc, List.singleton_append] at same
      have left := eq_of_gap_append gap gap' (opens.skipGap this _) (skipGap_cons noGap _) same
      exact absurd left (ne this)
    | first gap' this' spelled' =>
      simp only [List.append_assoc] at same
      obtain ⟨head, tail⟩ := List.forall_mem_cons.1 each
      have left := eq_of_gap_append gap gap' (opens.skipGap this _) (opens.skipGap this' _) same
      obtain ⟨rfl, left⟩ := head this this' (spelled.continuesNumber ends rest)
        (spelled'.continuesNumber ends rest') left
      obtain ⟨rfl, left⟩ := spelled.unique ends noGap noComma opens tail spelled' left
      exact ⟨rfl, left⟩

end Lists

namespace Tree

/-- The character that tells a kind of tree by the first character of its text; a zero stands for
the beginnings of numbers. -/
def opening : Tree → Char
  | .null => 'n'
  | .boolean true => 't'
  | .boolean false => 'f'
  | .number _ => '0'
  | .text _ => '"'
  | .array _ => '['
  | .object _ => '\x7b'

/-- The kind of tree that a first character opens. -/
def kindOf (c : Char) : Char :=
  if c = '-' ∨ c.isDigit = true then '0' else c

/-- What spells a tree begins with the character of its kind, and with no gap or closing bracket. -/
theorem exists_cons_of_spelling {tree : Tree} {text : List Char} (h : Spelling tree text) :
    ∃ c others, text = c :: others ∧ kindOf c = tree.opening ∧ isGap c = false ∧ c ≠ ']' := by
  cases h with
  | number number =>
    obtain ⟨c, others, rfl, first⟩ := number.exists_cons
    refine ⟨c, others, rfl, if_pos first, ?_, ?_⟩
    · rw [Bool.eq_false_iff]
      intro gap
      rcases isGap_iff.1 gap with rfl | rfl | rfl | rfl <;> rcases first with first | first <;>
        cases first
    · rintro rfl
      rcases first with first | first <;> cases first
  | _ => exact ⟨_, _, rfl, rfl, rfl, by decide⟩

theorem opens_spelling : Opens Spelling ']' := by
  intro tree text h
  obtain ⟨c, others, rfl, -, noGap, noClosing⟩ := exists_cons_of_spelling h
  exact ⟨c, others, rfl, noGap, noClosing⟩

theorem opens_memberSpelling : Opens MemberSpelling '\x7d' := by
  intro member text h
  cases h with
  | mk => exact ⟨_, _, rfl, rfl, by decide⟩

/-- A text ends at one place, and was one text up to there. -/
theorem text_unique {value other : String} {body body' rest rest' : List Char}
    (h : CharsSpelling value.toList body) (h' : CharsSpelling other.toList body')
    (same : body ++ rest = body' ++ rest') : value = other ∧ rest = rest' := by
  have read := congrArg readTextBody same
  rw [readTextBody_append h, readTextBody_append h'] at read
  exact Prod.mk.inj (Except.ok.inj read)

/-- A member can be read in one way, when its value can. -/
theorem unambiguous_member {member : String × Tree} (value : Unambiguous Spelling member.2) :
    Unambiguous MemberSpelling member := by
  intro other text text' rest rest' h h' ended ended' same
  cases h with
  | mk name before gap this =>
    cases h' with
    | mk name' before' gap' this' =>
      simp only [List.cons_append, List.append_assoc] at same
      obtain ⟨rfl, behind⟩ := text_unique name name' (List.cons.inj same).2
      have colon := eq_of_gap_append before before' (skipGap_cons rfl _) (skipGap_cons rfl _) behind
      have left := eq_of_gap_append gap gap' (opens_spelling.skipGap this _)
        (opens_spelling.skipGap this' _) (List.cons.inj colon).2
      obtain ⟨rfl, left⟩ := value this this' ended ended' left
      exact ⟨rfl, left⟩

/-- Two trees whose spellings begin in one place are of one kind. -/
theorem opening_eq {tree other : Tree} {text text' rest rest' : List Char} (h : Spelling tree text)
    (h' : Spelling other text') (same : text ++ rest = text' ++ rest') :
    tree.opening = other.opening := by
  obtain ⟨c, others, rfl, kind, -⟩ := exists_cons_of_spelling h
  obtain ⟨c', others', rfl, kind', -⟩ := exists_cons_of_spelling h'
  rw [← kind, ← kind', (List.cons.inj same).1]

/-- An array ends at its bracket, whatever follows. -/
theorem array_unique {items : List Tree} (each : ∀ item ∈ items, Unambiguous Spelling item)
    {other : Tree} {text text' rest rest' : List Char} (h : Spelling (.array items) text)
    (h' : Spelling other text') (same : text ++ rest = text' ++ rest') :
    .array items = other ∧ rest = rest' := by
  have kind := opening_eq h h' same
  cases h with
  | array enclosed =>
    cases h' with
    | array enclosed' =>
      obtain ⟨rfl, left⟩ := enclosed.unique rfl rfl (by decide) opens_spelling each enclosed'
        (List.cons.inj same).2
      exact ⟨rfl, left⟩
    | _ => simp [opening] at kind

/-- An object ends at its brace, whatever follows. -/
theorem object_unique {members : List (String × Tree)}
    (each : ∀ member ∈ members, Unambiguous Spelling member.2) {other : Tree}
    {text text' rest rest' : List Char} (h : Spelling (.object members) text)
    (h' : Spelling other text') (same : text ++ rest = text' ++ rest') :
    .object members = other ∧ rest = rest' := by
  have kind := opening_eq h h' same
  cases h with
  | object enclosed =>
    cases h' with
    | object enclosed' =>
      obtain ⟨rfl, left⟩ := enclosed.unique rfl rfl (by decide) opens_memberSpelling
        (fun member listed => unambiguous_member (each member listed)) enclosed'
        (List.cons.inj same).2
      exact ⟨rfl, left⟩
    | _ => simp [opening] at kind

/-- Every tree can be read in one way. -/
theorem unambiguous (tree : Tree) : Unambiguous Spelling tree := by
  induction tree using Tree.induction with
  | null =>
    intro other text text' rest rest' h h' _ _ same
    have kind := opening_eq h h' same
    cases h
    cases h' with
    | null => exact ⟨rfl, List.append_cancel_left same⟩
    | _ => simp [opening] at kind
  | boolean value =>
    intro other text text' rest rest' h h' _ _ same
    have kind := opening_eq h h' same
    cases h with
    | true =>
      cases h' with
      | true => exact ⟨rfl, List.append_cancel_left same⟩
      | _ => simp [opening] at kind
    | false =>
      cases h' with
      | false => exact ⟨rfl, List.append_cancel_left same⟩
      | _ => simp [opening] at kind
  | number literal =>
    intro other text text' rest rest' h h' ended ended' same
    have kind := opening_eq h h' same
    cases h with
    | number number =>
      cases h' with
      | number number' =>
        have literals := congrArg (List.takeWhile isNumberChar) same
        rw [number.takeWhile_append ended, number'.takeWhile_append ended'] at literals
        rw [literals] at same
        exact ⟨congrArg _ literals, List.append_cancel_left same⟩
      | _ => simp [opening] at kind
  | text value =>
    intro other text text' rest rest' h h' _ _ same
    have kind := opening_eq h h' same
    cases h with
    | text body =>
      cases h' with
      | text body' =>
        obtain ⟨rfl, left⟩ := text_unique body body' (List.cons.inj same).2
        exact ⟨rfl, left⟩
      | _ => simp [opening] at kind
  | array items each =>
    intro other text text' rest rest' h h' _ _ same
    exact array_unique each h h' same
  | object members each =>
    intro other text text' rest rest' h h' _ _ same
    exact object_unique each h h' same

/-- A document holds one tree at most. -/
theorem Document.unique {tree other : Tree} {text : List Char} (h : Document tree text)
    (h' : Document other text) : tree = other := by
  generalize same : text = text' at h'
  cases h with
  | mk before this after =>
    cases h' with
    | mk before' this' after' =>
      simp only [List.append_assoc] at same
      have left := eq_of_gap_append before before' (opens_spelling.skipGap this _)
        (opens_spelling.skipGap this' _) same
      exact (tree.unambiguous this this' (continuesNumber_gap after) (continuesNumber_gap after')
        left).1

/-- Behind a document that holds an array or an object only a gap may follow. -/
theorem Document.isGap_of_append {tree other : Tree} {front behind : List Char}
    (h : Document tree front) (h' : Document other (front ++ behind))
    (compound : (∃ items, other = .array items) ∨ ∃ members, other = .object members) :
    IsGap behind := by
  generalize same : front ++ behind = text at h'
  cases h with
  | @mk _ _ after before this =>
    cases h' with
    | @mk _ _ after' before' this' ended =>
      simp only [List.append_assoc] at same
      have spelled := eq_of_gap_append before before' (opens_spelling.skipGap this _)
        (opens_spelling.skipGap this' _) same
      have left : after' = after ++ behind := by
        rcases compound with ⟨items, rfl⟩ | ⟨members, rfl⟩
        · exact (array_unique (fun item _ => item.unambiguous) this' this spelled.symm).2
        · exact (object_unique (fun member _ => member.2.unambiguous) this' this spelled.symm).2
      intro c hc
      exact ended c (left ▸ List.mem_append_right after hc)

end Tree

/-! ## Values as trees -/

namespace Value

mutual

/-- A value as a tree. -/
def tree : Value → Tree
  | .null => .null
  | .boolean value => .boolean value
  | .number n => .number (Nat.toDigits 10 n)
  | .text value => .text value
  | .array items => .array (itemTrees items)
  | .object members => .object (memberTrees members)

def itemTrees : List Value → List Tree
  | [] => []
  | item :: items => tree item :: itemTrees items

def memberTrees : List (String × Value) → List (String × Tree)
  | [] => []
  | (key, value) :: members => (key, tree value) :: memberTrees members

end

theorem itemTrees_eq_map (items : List Value) : itemTrees items = items.map tree := by
  induction items with
  | nil => rfl
  | cons item items ih => rw [itemTrees, ih, List.map_cons]

theorem memberTrees_eq_map (members : List (String × Value)) :
    memberTrees members = members.map fun member => (member.1, member.2.tree) := by
  induction members with
  | nil => rfl
  | cons member members ih => rw [memberTrees, ih, List.map_cons]

end Value

/-- The digits of a number other than zero begin with no zero. -/
theorem exists_cons_toDigits {n : Nat} (pos : 0 < n) :
    ∃ c others, Nat.toDigits 10 n = c :: others ∧ c.isDigit = true ∧ c ≠ '0' ∧
      ∀ d ∈ others, d.isDigit = true := by
  induction n using Nat.strongRecOn with
  | ind n ih =>
    by_cases small : n < 10
    · refine ⟨n.digitChar, [], Nat.toDigits_of_lt_base small, ?_, ?_,
        fun _ h => absurd h List.not_mem_nil⟩
      · rw [Nat.isDigit_digitChar]
        exact decide_eq_true small
      · rw [Ne, Nat.digitChar_eq_zero]
        omega
    · obtain ⟨c, others, digits, first, nonzero, all⟩ := ih (n / 10) (by omega) (by omega)
      refine ⟨c, others ++ [(n % 10).digitChar], ?_, first, nonzero, ?_⟩
      · rw [Nat.toDigits_of_base_le (by decide) (Nat.le_of_not_lt small), digits]
        rfl
      · rw [List.forall_mem_append]
        refine ⟨all, ?_⟩
        rw [List.forall_mem_singleton, Nat.isDigit_digitChar]
        exact decide_eq_true (Nat.mod_lt _ (by decide))

/-- Whole numbers are written without zeros in front. -/
theorem isNumber_toDigits (n : Nat) : IsNumber (Nat.toDigits 10 n) := by
  have whole : IsWhole (Nat.toDigits 10 n) := by
    rcases Nat.eq_zero_or_pos n with rfl | pos
    · exact .zero
    · obtain ⟨c, others, digits, first, nonzero, all⟩ := exists_cons_toDigits pos
      rw [digits]
      exact .digits first nonzero all
  have number := IsNumber.mk (.inl rfl) whole .none .none
  rwa [List.nil_append, List.append_nil, List.append_nil] at number

theorem followingSpelling_items {items : List Value}
    (each : ∀ item ∈ items, ∀ ⦃text⦄, Spelling item text → Tree.Spelling item.tree text)
    {text : List Char} (h : ItemsSpelling items text) :
    FollowingSpelling Tree.Spelling ']' (items.map Value.tree) text := by
  induction items generalizing text with
  | nil =>
    cases h with
    | close gap => exact .close gap
  | cons item items ih =>
    obtain ⟨head, tail⟩ := List.forall_mem_cons.1 each
    cases h with
    | next before gap this others =>
      rw [List.append_assoc]
      exact .next before gap (head this) (ih tail others)

theorem memberSpelling_tree {member : String × Value}
    (value : ∀ ⦃text⦄, Spelling member.2 text → Tree.Spelling member.2.tree text)
    {text : List Char} (h : MemberSpelling member text) :
    Tree.MemberSpelling (member.1, member.2.tree) text := by
  cases h with
  | mk name before gap this =>
    rw [List.append_assoc]
    exact .mk name before gap (value this)

theorem followingSpelling_members {members : List (String × Value)}
    (each : ∀ member ∈ members, ∀ ⦃text⦄, Spelling member.2 text →
      Tree.Spelling member.2.tree text) {text : List Char} (h : MembersSpelling members text) :
    FollowingSpelling Tree.MemberSpelling '\x7d'
      (members.map fun member => (member.1, member.2.tree)) text := by
  induction members generalizing text with
  | nil =>
    cases h with
    | close gap => exact .close gap
  | cons member members ih =>
    obtain ⟨head, tail⟩ := List.forall_mem_cons.1 each
    cases h with
    | next before gap this others =>
      rw [List.append_assoc]
      exact .next before gap (memberSpelling_tree head this) (ih tail others)

/-- Every spelling of a value spells its tree. -/
theorem spelling_tree (value : Value) :
    ∀ ⦃text⦄, Spelling value text → Tree.Spelling value.tree text := by
  induction value using Value.induction with
  | null =>
    intro text h
    cases h
    exact .null
  | boolean value =>
    intro text h
    cases h with
    | true => exact .true
    | false => exact .false
  | number n =>
    intro text h
    cases h
    exact .number (isNumber_toDigits n)
  | text value =>
    intro text h
    cases h with
    | text body => exact .text body
  | array items each =>
    intro text h
    rw [Value.tree, Value.itemTrees_eq_map]
    cases h with
    | emptyArray gap => exact .array (.close gap)
    | array gap first others =>
      obtain ⟨head, tail⟩ := List.forall_mem_cons.1 each
      rw [List.append_assoc]
      exact .array (.first gap (head first) (followingSpelling_items tail others))
  | object members each =>
    intro text h
    rw [Value.tree, Value.memberTrees_eq_map]
    cases h with
    | emptyObject gap => exact .object (.close gap)
    | object gap first others =>
      obtain ⟨head, tail⟩ := List.forall_mem_cons.1 each
      rw [List.append_assoc]
      exact .object (.first gap (memberSpelling_tree head first)
        (followingSpelling_members tail others))

/-- A document that holds a value holds its tree. -/
theorem DocumentSpelling.tree {value : Value} {text : List Char} (h : DocumentSpelling value text) :
    Tree.Document value.tree text := by
  cases h with
  | mk before this after => exact .mk before (spelling_tree value this) after

end Preflight.Json
