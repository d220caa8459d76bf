import Preflight.Proofs.Json.Accepting
import Preflight.Proofs.Json.Document
import Preflight.Proofs.Json.Indented

/-!
Readers that decode: they take every spelling of the values that mean something to them, and nothing
else.

`Decodes` pairs the two halves. It is proved for texts and booleans and passed on to lists by their
items, and to records by their fields, whether a record is written as an object, with its members in
any order, or as an array, with its values in the order of the fields.
-/

namespace Preflight.Json

/-- A reader decodes a type when it takes the values that mean a result, however they are spelled,
and when whatever it takes spells a value that means the result. -/
structure Decodes {α : Type} (reader : Reader α) (means : Value → α → Prop) : Prop where
  reads : ∀ ⦃value : Value⦄ ⦃result : α⦄, means value result → Reads reader value result
  accepts : ∀ ⦃chars rest : List Char⦄ ⦃result : α⦄, reader chars = .ok (result, rest) →
    ∃ gap text value, IsGap gap ∧ Spelling value text ∧ means value result ∧
      chars = gap ++ text ++ rest

/-- A document holds one value at most. -/
theorem DocumentSpelling.unique {value other : Value} {text : List Char}
    (h : DocumentSpelling value text) (h' : DocumentSpelling other text) : value = other := by
  rw [← String.toList_ofList (l := text)] at h h'
  exact Except.ok.inj ((ofDocument_of_spelling h).symm.trans (ofDocument_of_spelling h'))

namespace Decodes

variable {α β : Type} {reader : Reader α} {means : Value → α → Prop}

/-- What a decoding reader takes from every spelling of a value is what the value means. -/
theorem means_of_reads (decodes : Decodes reader means) {value : Value} {result : α}
    (taken : Reads reader value result) : means value result := by
  have spelled := spelling_indented value
  have noDigit : startsWithDigit [] = false := rfl
  have read := taken .nil spelled noDigit
  obtain ⟨gap, text, other, hgap, h, meant, same⟩ := decodes.accepts read
  have here : DocumentSpelling value ([] ++ value.indented.toList ++ []) := .mk .nil spelled .nil
  have there : DocumentSpelling other (gap ++ text ++ []) := .mk hgap h .nil
  rw [← same] at there
  rwa [here.unique there]

/-- A decoding reader takes a result from every spelling of a value when the value means it. -/
theorem reads_iff (decodes : Decodes reader means) {value : Value} {result : α} :
    Reads reader value result ↔ means value result :=
  ⟨decodes.means_of_reads, fun meant => decodes.reads meant⟩

theorem of_iff {meant : Value → α → Prop} (decodes : Decodes reader means)
    (same : ∀ value result, means value result ↔ meant value result) : Decodes reader meant := by
  have equal : means = meant := by
    funext value result
    exact propext (same value result)
  rwa [← equal]

/-- The meaning of a result that is turned into another one behind the reader. -/
theorem map (decodes : Decodes reader means) (f : α → β) :
    Decodes (fun chars => (reader chars).map fun read => (f read.1, read.2))
      (fun value changed => ∃ result, means value result ∧ f result = changed) where
  reads := by
    rintro value _ ⟨result, meant, rfl⟩
    exact (decodes.reads meant).map f
  accepts := by
    intro chars rest changed read
    obtain ⟨⟨result, after⟩, taken, same⟩ := exists_of_map_eq_ok read
    obtain ⟨rfl, rfl⟩ := Prod.mk.inj same
    obtain ⟨gap, text, value, hgap, h, meant, spelled⟩ := decodes.accepts taken
    exact ⟨gap, text, value, hgap, h, ⟨result, meant, rfl⟩, spelled⟩

end Decodes

/-! ## Texts and booleans -/

def IsText (value : Value) (text : String) : Prop :=
  value = .text text

def IsBoolean (value : Value) (mark : Bool) : Prop :=
  value = .boolean mark

theorem decodes_text : Decodes readText IsText where
  reads := by
    rintro _ text rfl
    exact reads_text text
  accepts := by
    intro chars rest text read
    obtain ⟨gap, hgap, spelled⟩ := exists_gap chars
    rw [readText] at read
    split at read
    · next opened =>
      obtain ⟨body, h, rfl⟩ := exists_spelling_of_readTextBody read
      refine ⟨gap, '"' :: body, .text text, hgap, .text h, rfl, ?_⟩
      rw [spelled, opened, List.append_assoc]
      rfl
    · cases read

theorem decodes_boolean : Decodes readBoolean IsBoolean where
  reads := by
    rintro _ mark rfl
    exact reads_boolean mark
  accepts := by
    intro chars rest mark read
    obtain ⟨gap, hgap, spelled⟩ := exists_gap chars
    rw [readBoolean] at read
    split at read
    · next opened =>
      obtain ⟨after, word, same⟩ := exists_of_map_eq_ok read
      obtain ⟨rfl, rfl⟩ := Prod.mk.inj same
      refine ⟨gap, ['t', 'r', 'u', 'e'], _, hgap, .true, rfl, ?_⟩
      rw [spelled, opened, eq_append_of_readWord word, List.append_assoc]
      rfl
    · next opened =>
      obtain ⟨after, word, same⟩ := exists_of_map_eq_ok read
      obtain ⟨rfl, rfl⟩ := Prod.mk.inj same
      refine ⟨gap, ['f', 'a', 'l', 's', 'e'], _, hgap, .false, rfl, ?_⟩
      rw [spelled, opened, eq_append_of_readWord word, List.append_assoc]
      rfl
    · cases read

/-! ## Lists -/

/-- An array whose items mean the results, in their order. -/
def IsArray {α : Type} (means : Value → α → Prop) (value : Value) (results : List α) : Prop :=
  ∃ items, value = .array items ∧ List.Forall₂ means items results

section Lists

variable {α : Type} {reader : Reader α} {means : Value → α → Prop}

/-- The reader has come upon the end of the list, or has taken an item and gone on behind it. -/
theorem cases_of_readItems (decodes : Decodes reader means) {bound : Nat} {first : Bool}
    {chars rest : List Char} {results : List α}
    (read : readItems reader (bound + 1) first chars = .ok (results, rest)) :
    (results = [] ∧ nextItem first chars = .ok (false, rest)) ∨
    ∃ start gap this behind value head tail, results = head :: tail ∧
      nextItem first chars = .ok (true, start) ∧ IsGap gap ∧ Spelling value this ∧
      means value head ∧ start = gap ++ this ++ behind ∧
      readItems reader bound false behind = .ok (tail, rest) := by
  rw [readItems] at read
  obtain ⟨⟨more, start⟩, moved, taken⟩ := exists_of_bind_eq_ok read
  cases more with
  | false =>
    obtain ⟨rfl, rfl⟩ := Prod.mk.inj (Except.ok.inj taken)
    exact .inl ⟨rfl, moved⟩
  | true =>
    obtain ⟨⟨head, behind⟩, item, taken⟩ := exists_of_bind_eq_ok taken
    obtain ⟨⟨tail, last⟩, others, taken⟩ := exists_of_bind_eq_ok taken
    obtain ⟨rfl, rfl⟩ := Prod.mk.inj (Except.ok.inj taken)
    obtain ⟨gap, this, value, hgap, h, meant, same⟩ := decodes.accepts item
    exact .inr
      ⟨start, gap, this, behind, value, head, tail, rfl, moved, hgap, h, meant, same, others⟩

/-- The items after the first have been read up to the closing bracket. -/
theorem exists_items_of_readItems (decodes : Decodes reader means) {bound : Nat}
    {chars rest : List Char} {results : List α}
    (read : readItems reader bound false chars = .ok (results, rest)) :
    ∃ items text after, List.Forall₂ means items results ∧ ItemsSpelling items text ∧
      rest = ']' :: after ∧ chars = text ++ after := by
  induction bound generalizing chars results with
  | zero => cases read
  | succ bound ih =>
    rcases cases_of_readItems decodes read with ⟨rfl, moved⟩ |
      ⟨_, inner, this, behind, value, head, tail, rfl, moved, hinner, h, meant, rfl, others⟩
    · obtain ⟨gap, after, hgap, rfl, rfl⟩ := exists_close_of_nextItem moved
      refine ⟨[], gap ++ [']'], after, .nil, .close hgap, rfl, ?_⟩
      rw [List.append_assoc]
      rfl
    · obtain ⟨before, gap, hbefore, hgap, rfl⟩ := exists_comma_of_nextItem moved
      obtain ⟨items, text, after, each, spelled, rfl, rfl⟩ := ih others
      refine ⟨value :: items, before ++ ',' :: ((gap ++ inner) ++ this ++ text), after,
        .cons meant each, .next hbefore (hgap.append hinner) h spelled, rfl, ?_⟩
      simp only [List.append_assoc, List.cons_append]

/-- What has been read behind an opening bracket spells an array. -/
theorem exists_array_of_readItems (decodes : Decodes reader means) {bound : Nat}
    {chars rest : List Char} {results : List α}
    (read : readItems reader bound true chars = .ok (results, rest)) :
    ∃ items text after, List.Forall₂ means items results ∧ Spelling (.array items) ('[' :: text) ∧
      rest = ']' :: after ∧ chars = text ++ after := by
  cases bound with
  | zero => cases read
  | succ bound =>
    rcases cases_of_readItems decodes read with ⟨rfl, moved⟩ |
      ⟨_, inner, this, behind, value, head, tail, rfl, moved, hinner, h, meant, rfl, others⟩
    · obtain ⟨gap, after, hgap, rfl, rfl⟩ := exists_close_of_nextItem moved
      refine ⟨[], gap ++ [']'], after, .nil, .emptyArray hgap, rfl, ?_⟩
      rw [List.append_assoc]
      rfl
    · obtain ⟨gap, hgap, rfl⟩ := exists_gap_of_nextItem_first moved
      obtain ⟨items, text, after, each, spelled, rfl, rfl⟩ :=
        exists_items_of_readItems decodes others
      refine ⟨value :: items, (gap ++ inner) ++ this ++ text, after, .cons meant each,
        .array (hgap.append hinner) h spelled, rfl, ?_⟩
      simp only [List.append_assoc]

/-- Lists decode when their items do. -/
theorem Decodes.list (decodes : Decodes reader means) :
    Decodes (readList reader) (IsArray means) where
  reads := by
    rintro _ results ⟨items, rfl, each⟩
    exact .list (each.imp fun _ _ meant => decodes.reads meant)
  accepts := by
    intro chars rest results read
    obtain ⟨gap, hgap, spelled⟩ := exists_gap chars
    rw [readList] at read
    split at read
    · next inner opened =>
      obtain ⟨⟨found, last⟩, taken, closed⟩ := exists_of_bind_eq_ok read
      obtain ⟨beyond, closed, same⟩ := exists_of_bind_eq_ok closed
      obtain ⟨rfl, rfl⟩ := Prod.mk.inj (Except.ok.inj same)
      obtain ⟨items, text, after, each, h, rfl, rfl⟩ := exists_array_of_readItems decodes taken
      cases closed
      refine ⟨gap, '[' :: text, .array items, hgap, h, ⟨items, rfl, each⟩, ?_⟩
      rw [spelled, opened, List.append_assoc]
      rfl
    · cases read

end Lists

/-! ## Records -/

theorem eq_ok_of_placed {α : Type} {outcome : Except Failure α} {result : α}
    (h : placed outcome = .ok result) : outcome = .ok result := by
  cases outcome with
  | error failure => cases h
  | ok value => exact congrArg _ (Except.ok.inj h)

namespace Record

variable {Draft α : Type} {record : Record Draft α}

/-- Every field of a record takes what it reads from all spellings of some value. -/
def FieldsDecode (record : Record Draft α) : Prop :=
  ∀ field ∈ record.fields, ∀ draft, Decodes (field.read draft) (Reads (field.read draft))

/-- The values of an array fill a draft one after another: each is read by the next field, and the
fields that are left over may be left out. -/
inductive Places : List (Field Draft) → Draft → List Value → Draft → Prop
  | close {fields : List (Field Draft)} {draft : Draft} :
    (∀ field ∈ fields, field.optional = true) → Places fields draft [] draft
  | cons {field : Field Draft} {fields : List (Field Draft)} {draft next last : Draft}
    {value : Value} {items : List Value} :
    Reads (field.read draft) value next → Places fields next items last →
    Places (field :: fields) draft (value :: items) last

/-- The values that describe a record: an object whose members fill a draft, or an array whose items
do. -/
inductive Describes (record : Record Draft α) : Value → α → Prop
  | object {members : List (String × Value)} {last : Draft} {result : α} :
    record.Fills record.blank members last → record.finish last = .ok result →
    Describes record (.object members) result
  | array {items : List Value} {last : Draft} {result : α} :
    Places record.fields record.blank items last → record.finish last = .ok result →
    Describes record (.array items) result

/-- A record that has been closed had been read up to its end. -/
theorem exists_of_settle {closing : Char} {close : List Char → Except Failure (List Char)}
    {outcome : Except Break (α × List Char)} {result : α} {rest : List Char}
    (settled : settle closing close outcome = .ok (result, rest)) :
    ∃ before, outcome = .ok (result, before) ∧ close before = .ok rest := by
  rcases outcome with (_ | _) | ⟨value, before⟩
  · cases settled
  · cases settled
  · obtain ⟨after, closed, same⟩ := exists_of_map_eq_ok settled
    obtain ⟨rfl, rfl⟩ := Prod.mk.inj same
    exact ⟨before, rfl, closed⟩

theorem finish_of_complete {draft : Draft} {chars rest : List Char} {result : α}
    (completed : record.complete draft chars = .ok (result, rest)) :
    record.finish draft = .ok result ∧ chars = rest := by
  rw [complete] at completed
  split at completed
  · next finished =>
    cases completed
    exact ⟨finished, rfl⟩
  · cases completed

/-! ### As objects -/

/-- The reader has come upon the end of the object, or has taken a member into the draft and gone on
behind it. -/
theorem cases_of_readMembers (fields : record.FieldsDecode) {bound : Nat} {first : Bool}
    {draft last : Draft} {chars rest : List Char}
    (read : record.readMembers (bound + 1) first draft chars = .ok (last, rest)) :
    (last = draft ∧ nextMember first chars = .ok (false, rest)) ∨
    ∃ this behind key value field next, nextMember first chars = .ok (true, this ++ behind) ∧
      MemberSpelling (key, value) ('"' :: this) ∧
      record.fields.find? (·.name == key) = some field ∧ field.filled draft = false ∧
      Reads (field.read draft) value next ∧
      record.readMembers bound false next behind = .ok (last, rest) := by
  rw [readMembers] at read
  obtain ⟨⟨more, start⟩, moved, taken⟩ := exists_of_bind_eq_ok read
  have moved := eq_ok_of_placed moved
  cases more with
  | false =>
    obtain ⟨rfl, rfl⟩ := Prod.mk.inj (Except.ok.inj taken)
    exact .inl ⟨rfl, moved⟩
  | true =>
    obtain ⟨⟨key, opened⟩, named, member⟩ := exists_of_bind_eq_ok taken
    obtain ⟨name, hname, rfl⟩ := exists_spelling_of_readTextBody (eq_ok_of_placed named)
    dsimp only at member
    split at member
    · cases member
    · next field found =>
      split at member
      · cases member
      · next empty =>
        obtain ⟨colon, separated, valuable⟩ := exists_of_bind_eq_ok member
        obtain ⟨before, hbefore, rfl⟩ := exists_gap_of_readColon (eq_ok_of_placed separated)
        obtain ⟨⟨next, behind⟩, valued, others⟩ := exists_of_bind_eq_ok valuable
        obtain ⟨gap, this, value, hgap, h, reads, rfl⟩ :=
          (fields field (List.mem_of_find?_eq_some found) draft).accepts (eq_ok_of_placed valued)
        refine .inr ⟨name ++ before ++ ':' :: (gap ++ this), behind, key, value, field, next, ?_,
          .mk hname hbefore hgap h, found, Bool.eq_false_iff.2 empty, reads, others⟩
        rw [moved]
        simp only [List.append_assoc, List.cons_append]

/-- The members after the first have been read up to the closing brace. -/
theorem exists_members_of_readMembers (fields : record.FieldsDecode) {bound : Nat}
    {draft last : Draft} {chars rest : List Char}
    (read : record.readMembers bound false draft chars = .ok (last, rest)) :
    ∃ members text after, record.Fills draft members last ∧ MembersSpelling members text ∧
      rest = '\x7d' :: after ∧ chars = text ++ after := by
  induction bound generalizing draft chars with
  | zero => cases read
  | succ bound ih =>
    rcases cases_of_readMembers fields read with
      ⟨rfl, moved⟩ | ⟨this, behind, key, value, field, next, moved, h, found, empty, reads, others⟩
    · obtain ⟨gap, after, hgap, rfl, rfl⟩ := exists_close_of_nextMember moved
      refine ⟨[], gap ++ ['\x7d'], after, .nil, .close hgap, rfl, ?_⟩
      rw [List.append_assoc]
      rfl
    · obtain ⟨before, gap, hbefore, hgap, rfl⟩ := exists_comma_of_nextMember moved
      obtain ⟨members, text, after, filled, spelled, rfl, rfl⟩ := ih others
      refine ⟨(key, value) :: members, before ++ ',' :: (gap ++ '"' :: this ++ text), after,
        .cons found empty reads filled, .next hbefore hgap h spelled, rfl, ?_⟩
      simp only [List.append_assoc, List.cons_append]

/-- What has been read behind an opening brace spells an object. -/
theorem exists_object_of_readMembers (fields : record.FieldsDecode) {bound : Nat}
    {draft last : Draft} {chars rest : List Char}
    (read : record.readMembers bound true draft chars = .ok (last, rest)) :
    ∃ members text after, record.Fills draft members last ∧
      Spelling (.object members) ('\x7b' :: text) ∧ rest = '\x7d' :: after ∧
      chars = text ++ after := by
  cases bound with
  | zero => cases read
  | succ bound =>
    rcases cases_of_readMembers fields read with
      ⟨rfl, moved⟩ | ⟨this, behind, key, value, field, next, moved, h, found, empty, reads, others⟩
    · obtain ⟨gap, after, hgap, rfl, rfl⟩ := exists_close_of_nextMember moved
      refine ⟨[], gap ++ ['\x7d'], after, .nil, .emptyObject hgap, rfl, ?_⟩
      rw [List.append_assoc]
      rfl
    · obtain ⟨gap, hgap, rfl⟩ := exists_gap_of_nextMember_first moved
      obtain ⟨members, text, after, filled, spelled, rfl, rfl⟩ :=
        exists_members_of_readMembers fields others
      refine ⟨(key, value) :: members, gap ++ '"' :: this ++ text, after,
        .cons found empty reads filled, .object hgap h spelled, rfl, ?_⟩
      simp only [List.append_assoc, List.cons_append]

/-! ### As arrays -/

/-- The reader has come upon the end of the array, or the next field has taken an item and the
reader has gone on behind it. -/
theorem cases_of_readPlaces {field : Field Draft} {fields : List (Field Draft)} {index : Nat}
    {draft last : Draft} {chars rest : List Char}
    (decodes : Decodes (field.read draft) (Reads (field.read draft)))
    (read : record.readPlaces index (field :: fields) draft chars = .ok (last, rest)) :
    (field.optional = true ∧ ∃ closed, nextItem (index == 0) chars = .ok (false, closed) ∧
      record.readPlaces (index + 1) fields draft closed = .ok (last, rest)) ∨
    ∃ gap this behind value next,
      nextItem (index == 0) chars = .ok (true, gap ++ this ++ behind) ∧ IsGap gap ∧
      Spelling value this ∧ Reads (field.read draft) value next ∧
      record.readPlaces (index + 1) fields next behind = .ok (last, rest) := by
  rw [readPlaces] at read
  obtain ⟨⟨more, start⟩, moved, taken⟩ := exists_of_bind_eq_ok read
  have moved := eq_ok_of_placed moved
  cases more with
  | false =>
    dsimp only at taken
    split at taken
    · next optional => exact .inl ⟨optional, start, moved, taken⟩
    · cases taken
  | true =>
    obtain ⟨⟨next, behind⟩, valued, others⟩ := exists_of_bind_eq_ok taken
    obtain ⟨gap, this, value, hgap, h, reads, rfl⟩ := decodes.accepts (eq_ok_of_placed valued)
    exact .inr ⟨gap, this, behind, value, next, moved, hgap, h, reads, others⟩

/-- Behind the last item every field is left out. -/
theorem optional_of_readPlaces_close {fields : List (Field Draft)} {index : Nat}
    {draft last : Draft} {after rest : List Char}
    (read : record.readPlaces index fields draft (']' :: after) = .ok (last, rest)) :
    (∀ field ∈ fields, field.optional = true) ∧ last = draft ∧ rest = ']' :: after := by
  induction fields generalizing index with
  | nil =>
    cases read
    exact ⟨fun _ h => absurd h List.not_mem_nil, rfl, rfl⟩
  | cons field fields ih =>
    rw [readPlaces, ← List.nil_append (']' :: after), nextItem_close .nil] at read
    simp only [placed, bind, Except.bind] at read
    split at read
    · next optional =>
      obtain ⟨others, same⟩ := ih read
      exact ⟨List.forall_mem_cons.2 ⟨optional, others⟩, same⟩
    · cases read

/-- The items after the first have been read by the fields, up to the closing bracket. -/
theorem exists_items_of_readPlaces {fields : List (Field Draft)} {index : Nat} {draft last : Draft}
    {chars rest beyond : List Char}
    (decode : ∀ field ∈ fields, ∀ draft, Decodes (field.read draft) (Reads (field.read draft)))
    (read : record.readPlaces (index + 1) fields draft chars = .ok (last, rest))
    (closed : closeList rest = .ok beyond) :
    ∃ items text, Places fields draft items last ∧ ItemsSpelling items text ∧
      chars = text ++ beyond := by
  induction fields generalizing index draft chars with
  | nil =>
    cases read
    obtain ⟨gap, hgap, rfl⟩ := exists_gap_of_closeList closed
    refine ⟨[], gap ++ [']'], .close fun _ h => absurd h List.not_mem_nil, .close hgap, ?_⟩
    rw [List.append_assoc]
    rfl
  | cons field fields ih =>
    obtain ⟨first, others⟩ := List.forall_mem_cons.1 decode
    rcases cases_of_readPlaces (first draft) read with ⟨optional, start, moved, left⟩ |
      ⟨inner, this, behind, value, next, moved, hinner, h, reads, left⟩
    · obtain ⟨gap, after, hgap, rfl, rfl⟩ := exists_close_of_nextItem moved
      obtain ⟨optionals, rfl, rfl⟩ := optional_of_readPlaces_close left
      cases closed
      refine ⟨[], gap ++ [']'], .close (List.forall_mem_cons.2 ⟨optional, optionals⟩),
        .close hgap, ?_⟩
      rw [List.append_assoc]
      rfl
    · obtain ⟨before, gap, hbefore, hgap, rfl⟩ := exists_comma_of_nextItem moved
      obtain ⟨items, text, placed, spelled, rfl⟩ := ih others left
      refine ⟨value :: items, before ++ ',' :: ((gap ++ inner) ++ this ++ text),
        .cons reads placed, .next hbefore (hgap.append hinner) h spelled, ?_⟩
      simp only [List.append_assoc, List.cons_append]

/-- What has been read by the fields behind an opening bracket spells an array. -/
theorem exists_array_of_readPlaces {fields : List (Field Draft)} {draft last : Draft}
    {chars rest beyond : List Char}
    (decode : ∀ field ∈ fields, ∀ draft, Decodes (field.read draft) (Reads (field.read draft)))
    (read : record.readPlaces 0 fields draft chars = .ok (last, rest))
    (closed : closeList rest = .ok beyond) :
    ∃ items text, Places fields draft items last ∧ Spelling (.array items) ('[' :: text) ∧
      chars = text ++ beyond := by
  cases fields with
  | nil =>
    cases read
    obtain ⟨gap, hgap, rfl⟩ := exists_gap_of_closeList closed
    refine ⟨[], gap ++ [']'], .close fun _ h => absurd h List.not_mem_nil, .emptyArray hgap, ?_⟩
    rw [List.append_assoc]
    rfl
  | cons field fields =>
    obtain ⟨first, others⟩ := List.forall_mem_cons.1 decode
    rcases cases_of_readPlaces (first draft) read with ⟨optional, start, moved, left⟩ |
      ⟨inner, this, behind, value, next, moved, hinner, h, reads, left⟩
    · obtain ⟨gap, after, hgap, rfl, rfl⟩ := exists_close_of_nextItem moved
      obtain ⟨optionals, rfl, rfl⟩ := optional_of_readPlaces_close left
      cases closed
      refine ⟨[], gap ++ [']'], .close (List.forall_mem_cons.2 ⟨optional, optionals⟩),
        .emptyArray hgap, ?_⟩
      rw [List.append_assoc]
      rfl
    · obtain ⟨gap, hgap, rfl⟩ := exists_gap_of_nextItem_first moved
      obtain ⟨items, text, placed, spelled, rfl⟩ := exists_items_of_readPlaces others left closed
      refine ⟨value :: items, (gap ++ inner) ++ this ++ text, .cons reads placed,
        .array (hgap.append hinner) h spelled, ?_⟩
      simp only [List.append_assoc]

/-- The fields that are left out take nothing. -/
theorem readPlaces_close {fields : List (Field Draft)}
    (optional : ∀ field ∈ fields, field.optional = true) (index : Nat) (draft : Draft)
    (rest : List Char) :
    record.readPlaces index fields draft (']' :: rest) = .ok (draft, ']' :: rest) := by
  induction fields generalizing index with
  | nil => rfl
  | cons field fields ih =>
    obtain ⟨first, others⟩ := List.forall_mem_cons.1 optional
    rw [readPlaces, ← List.nil_append (']' :: rest), nextItem_close .nil]
    simp only [placed, bind, Except.bind, first, if_true]
    exact ih others (index + 1)

/-- An item is read by the next field once the reader has moved to it. -/
theorem readPlaces_item {field : Field Draft} {fields : List (Field Draft)} {draft next : Draft}
    {value : Value} (taken : Reads (field.read draft) value next) {this : List Char}
    (h : Spelling value this) {rest : List Char} (noDigit : startsWithDigit rest = false)
    (index : Nat) {chars : List Char}
    (moved : nextItem (index == 0) chars = .ok (true, this ++ rest)) :
    record.readPlaces index (field :: fields) draft chars =
      record.readPlaces (index + 1) fields next rest := by
  have item := taken .nil h noDigit
  rw [List.nil_append] at item
  rw [readPlaces, moved]
  simp only [placed, bind, Except.bind, item]

/-- The items after the first are read by the fields, and the array is closed behind them. -/
theorem readPlaces_next {fields : List (Field Draft)} {draft last : Draft} {items : List Value}
    (places : Places fields draft items last) {text : List Char} (h : ItemsSpelling items text)
    (index : Nat) (beyond : List Char) :
    ∃ rest, record.readPlaces (index + 1) fields draft (text ++ beyond) = .ok (last, rest) ∧
      closeList rest = .ok beyond := by
  induction places generalizing text index with
  | @close fields draft optional =>
    cases h with
    | @close gap hgap =>
      cases fields with
      | nil =>
        refine ⟨_, rfl, ?_⟩
        rw [List.append_assoc]
        exact closeList_append hgap beyond
      | cons field fields =>
        obtain ⟨first, others⟩ := List.forall_mem_cons.1 optional
        refine ⟨']' :: beyond, ?_, rfl⟩
        rw [List.append_assoc, List.singleton_append, readPlaces, nextItem_close hgap]
        simp only [placed, bind, Except.bind, first, if_true]
        exact readPlaces_close others _ draft beyond
  | cons taken _ ih =>
    cases h with
    | next before gap this others =>
      obtain ⟨rest, read, closed⟩ := ih others (index + 1)
      refine ⟨rest, ?_, closed⟩
      rw [List.append_assoc, List.cons_append, List.append_assoc,
        readPlaces_item taken this (startsWithDigit_items others beyond) (index + 1)
          (nextItem_next before gap this _)]
      exact read

/-- A record is read from an array whose items fill a draft that makes the record. -/
theorem reads_of_places {items : List Value} {last : Draft} {result : α}
    (places : Places record.fields record.blank items last)
    (finished : record.finish last = .ok result) : Reads record.read (.array items) result := by
  intro gap text rest hgap h _
  have settled {chars before : List Char}
      (read : record.readPlaces 0 record.fields record.blank chars = .ok (last, before))
      (closed : closeList before = .ok rest) :
      record.read (gap ++ '[' :: chars) = .ok (result, rest) := by
    rw [Record.read, skipGap_append hgap, skipGap_cons rfl]
    simp only [read, bind, Except.bind, complete, finished, settle, closed]
    rfl
  cases h with
  | @emptyArray inner hinner =>
    rw [List.append_assoc, List.cons_append, List.append_assoc, List.singleton_append]
    generalize record.fields = fields at places settled
    cases places with
    | close optional =>
      cases fields with
      | nil =>
        exact settled rfl (closeList_append hinner rest)
      | cons field fields =>
        obtain ⟨first, others⟩ := List.forall_mem_cons.1 optional
        have closed : closeList (']' :: rest) = .ok rest := rfl
        refine settled ?_ closed
        rw [readPlaces, nextItem_close hinner]
        simp only [placed, bind, Except.bind, first, if_true]
        exact readPlaces_close others _ _ rest
  | array inner first others =>
    generalize record.fields = fields at places settled
    cases places with
    | cons taken places =>
      obtain ⟨before, read, closed⟩ := readPlaces_next places others 0 rest
      rw [List.append_assoc, List.cons_append, List.append_assoc]
      refine settled ?_ closed
      rw [readPlaces_item taken first (startsWithDigit_items others rest) 0
        (nextItem_first inner first _)]
      exact read

/-! ### Both ways -/

/-- Records decode when their fields do. -/
theorem decodes_read (fields : record.FieldsDecode) : Decodes record.read record.Describes where
  reads := by
    rintro value result (⟨filled, finished⟩ | ⟨places, finished⟩)
    · exact reads_of_fills filled finished
    · exact reads_of_places places finished
  accepts := by
    intro chars rest result read
    obtain ⟨gap, hgap, spelled⟩ := exists_gap chars
    rw [Record.read] at read
    split at read
    · next inner opened =>
      obtain ⟨before, made, closed⟩ := exists_of_settle read
      obtain ⟨⟨last, behind⟩, placed, completed⟩ := exists_of_bind_eq_ok made
      obtain ⟨finished, rfl⟩ := finish_of_complete completed
      obtain ⟨items, text, places, h, rfl⟩ := exists_array_of_readPlaces fields placed closed
      refine ⟨gap, '[' :: text, .array items, hgap, h, .array places finished, ?_⟩
      rw [spelled, opened, List.append_assoc]
      rfl
    · next inner opened =>
      obtain ⟨before, made, closed⟩ := exists_of_settle read
      obtain ⟨⟨last, behind⟩, placed, completed⟩ := exists_of_bind_eq_ok made
      obtain ⟨finished, rfl⟩ := finish_of_complete completed
      obtain ⟨members, text, after, filled, h, rfl, rfl⟩ :=
        exists_object_of_readMembers fields placed
      cases closed
      refine ⟨gap, '\x7b' :: text, .object members, hgap, h, .object filled finished, ?_⟩
      rw [spelled, opened, List.append_assoc]
      rfl
    · cases read

end Record

/-! ## Documents -/

/-- A document is read as what the one value that it holds means. -/
theorem Decodes.readDocument_eq_ok_iff {α : Type} {reader : Reader α} {means : Value → α → Prop}
    (decodes : Decodes reader means) {text : String} {result : α} :
    readDocument reader text = .ok result ↔
      ∃ value, DocumentSpelling value text.toList ∧ means value result := by
  constructor
  · intro read
    rw [readDocument] at read
    dsimp only at read
    split at read
    · next outcome =>
      cases read
      obtain ⟨⟨found, rest⟩, taken, ended⟩ := exists_of_bind_eq_ok outcome
      obtain ⟨gap, this, value, hgap, h, meant, spelled⟩ := decodes.accepts taken
      obtain ⟨behind, hbehind, left⟩ := exists_gap rest
      dsimp only at ended
      split at ended
      · next empty =>
        cases ended
        rw [empty, List.append_nil] at left
        rw [spelled, left]
        exact ⟨value, .mk hgap h hbehind, meant⟩
      · cases ended
    · cases read
  · rintro ⟨value, spelled, meant⟩
    exact readDocument_of_reads (decodes.reads meant) spelled

end Preflight.Json
