import Mathlib.Data.List.Nodup
import Preflight.Proofs.Json.Decoding

/-!
Objects by their keys.

A draft is filled member by member, in whatever order the members stand. What comes of it can be
told without an order: every key is known and given once, and each slot of the draft holds the value
of its key, if the key is given at all. `Slots` says what the fields of a record have to be for
that.
-/

namespace Preflight.Json

variable {Item Content : Type}

/-- The keys of the members of an object, in order. -/
def keys (members : List (String × Item)) : List String :=
  members.map Prod.fst

/-- A member gives a key a value of some kind. -/
def Gives (members : List (String × Item)) (key : String) (kind : Item → Prop) : Prop :=
  ∃ value, (key, value) ∈ members ∧ kind value

/-- A member gives a key a value of some kind, or no member has the key and something else is so. -/
def GivesOr (members : List (String × Item)) (key : String) (kind : Item → Prop) (absent : Prop) :
    Prop :=
  Gives members key kind ∨ key ∉ keys members ∧ absent

theorem Gives.mem_keys {members : List (String × Item)} {key : String} {kind : Item → Prop}
    (given : Gives members key kind) : key ∈ keys members := by
  obtain ⟨value, listed, -⟩ := given
  exact List.mem_map.2 ⟨(key, value), listed, rfl⟩

/-! ## Slots -/

/-- What members do to a slot of a draft: an empty one takes what the value of its key means, if the
key is given, and a full one stays as it is, if the key is not given. -/
def Adds (members : List (String × Item)) (key : String) (means : Item → Content → Prop) :
    Option Content → Option Content → Prop
  | none, none => key ∉ keys members
  | none, some content => Gives members key (means · content)
  | some content, after => after = some content ∧ key ∉ keys members

section Adds

variable {members : List (String × Item)} {key : String} {means : Item → Content → Prop}
  {before after : Option Content}

theorem adds_nil : Adds [] key means before after ↔ after = before := by
  cases before with
  | none =>
    cases after with
    | none => simp [Adds, keys]
    | some content => simp [Adds, Gives]
  | some content => simp [Adds, keys]

/-- A member with another key leaves a slot alone. -/
theorem adds_cons_of_ne {other : String} (ne : key ≠ other) (value : Item) :
    Adds ((other, value) :: members) key means before after ↔
      Adds members key means before after := by
  have absent : key ∉ keys ((other, value) :: members) ↔ key ∉ keys members := by
    simp [keys, ne]
  have given (content : Content) :
      Gives ((other, value) :: members) key (means · content) ↔
        Gives members key (means · content) := by
    simp [Gives, ne]
  cases before with
  | none =>
    cases after with
    | none => exact absent
    | some content => exact given content
  | some content => exact and_congr_right' absent

/-- The one member that has the key of a slot fills the slot. -/
theorem adds_cons_self (once : key ∉ keys members) (value : Item) :
    Adds ((key, value) :: members) key means before after ↔
      before = none ∧ ∃ content, means value content ∧
        Adds members key means (some content) after := by
  have listed : key ∈ keys ((key, value) :: members) := List.mem_cons_self
  cases before with
  | none =>
    cases after with
    | none => simp [Adds, listed]
    | some content =>
      have only : ∀ other, (key, other) ∈ (key, value) :: members ↔ other = value := by
        intro other
        constructor
        · intro h
          rcases List.mem_cons.1 h with same | h
          · exact (Prod.mk.inj same).2
          · exact absurd (List.mem_map.2 ⟨_, h, rfl⟩) once
        · rintro rfl
          exact List.mem_cons_self
      simp only [Adds, Gives, only, exists_eq_left, true_and, Option.some.injEq]
      constructor
      · intro meant
        exact ⟨content, meant, rfl, once⟩
      · rintro ⟨_, meant, rfl, -⟩
        exact meant
  | some content => simp [Adds, listed]

/-- A slot with a default holds the value of its key, or the default when the key is not given. -/
theorem exists_adds_iff (means : Item → Content → Prop) {default content : Content} :
    (∃ slot, Adds members key means none slot ∧ slot.getD default = content) ↔
      GivesOr members key (means · content) (content = default) := by
  constructor
  · rintro ⟨_ | given, adds, rfl⟩
    · exact .inr ⟨adds, rfl⟩
    · exact .inl adds
  · rintro (given | ⟨absent, rfl⟩)
    · exact ⟨some content, given, rfl⟩
    · exact ⟨none, absent, rfl⟩

end Adds

/-! ## Records -/

/-- A slot of a draft: how its content is read and what a value means as content. -/
structure Slot (Draft : Type) where
  name : String
  optional : Bool
  Content : Type
  get : Draft → Option Content
  set : Draft → Content → Draft
  reader : Reader Content
  means : Value → Content → Prop

/-- The field that fills a slot. -/
def Slot.field {Draft : Type} (slot : Slot Draft) : Field Draft where
  name := slot.name
  optional := slot.optional
  filled := fun draft => (slot.get draft).isSome
  read := fun draft chars => (slot.reader chars).map fun read => (slot.set draft read.1, read.2)

namespace Record

variable {Draft α : Type}

/-- The fields of a record fill the slots of its draft, each its own, and the draft consists of
them. -/
structure Slots (record : Record Draft α) (slots : List (Slot Draft)) : Prop where
  fields : record.fields = slots.map Slot.field
  names : (slots.map (·.name)).Nodup
  decodes : ∀ slot ∈ slots, Decodes slot.reader slot.means
  get_set : ∀ slot ∈ slots, ∀ draft content, slot.get (slot.set draft content) = some content
  get_set_of_ne : ∀ slot ∈ slots, ∀ other ∈ slots, slot.name ≠ other.name →
    ∀ draft content, other.get (slot.set draft content) = other.get draft
  ext : ∀ draft last, (∀ slot ∈ slots, slot.get draft = slot.get last) → draft = last

namespace Slots

variable {record : Record Draft α} {slots : List (Slot Draft)}

/-- What the field of a slot takes from a value goes into the slot. -/
theorem reads_field_iff (lawful : record.Slots slots) {slot : Slot Draft} (listed : slot ∈ slots)
    {draft next : Draft} {value : Value} :
    Reads (slot.field.read draft) value next ↔
      ∃ content, slot.means value content ∧ slot.set draft content = next :=
  ((lawful.decodes slot listed).map (slot.set draft)).reads_iff

/-- The fields of a record with slots decode. -/
theorem fieldsDecode (lawful : record.Slots slots) : record.FieldsDecode := by
  intro field listed draft
  rw [lawful.fields] at listed
  obtain ⟨slot, hslot, rfl⟩ := List.mem_map.1 listed
  exact ((lawful.decodes slot hslot).map (slot.set draft)).of_iff fun _ _ =>
    (lawful.reads_field_iff hslot).symm

/-- Slots with one name are one slot. -/
theorem eq_of_name_eq (lawful : record.Slots slots) {slot other : Slot Draft} (hslot : slot ∈ slots)
    (hother : other ∈ slots) (same : slot.name = other.name) : slot = other :=
  List.inj_on_of_nodup_map lawful.names hslot hother same

/-- A key finds the field of its slot. -/
theorem find?_eq_some_iff (lawful : record.Slots slots) {key : String} {field : Field Draft} :
    record.fields.find? (·.name == key) = some field ↔
      ∃ slot ∈ slots, slot.field = field ∧ slot.name = key := by
  rw [lawful.fields]
  have names := lawful.names
  clear lawful
  induction slots with
  | nil => simp
  | cons slot slots ih =>
    rw [List.map_cons, List.nodup_cons] at names
    obtain ⟨fresh, names⟩ := names
    by_cases same : slot.name = key
    · rw [List.map_cons, List.find?_cons_of_pos (by rwa [beq_iff_eq]), Option.some.injEq]
      constructor
      · rintro rfl
        exact ⟨slot, List.mem_cons_self, rfl, same⟩
      · rintro ⟨other, listed, rfl, named⟩
        rcases List.mem_cons.1 listed with rfl | listed
        · rfl
        · exact absurd (List.mem_map.2 ⟨other, listed, named.trans same.symm⟩) fresh
    · rw [List.map_cons, List.find?_cons_of_neg (by rwa [beq_iff_eq])]
      exact (ih names).trans (by simp [same])

/-- A member fills the slot of its key, if that is empty. -/
theorem fills_cons_iff (lawful : record.Slots slots) {draft last : Draft} {key : String}
    {value : Value} {members : List (String × Value)} :
    record.Fills draft ((key, value) :: members) last ↔
      ∃ slot ∈ slots, slot.name = key ∧ slot.get draft = none ∧
        ∃ content, slot.means value content ∧
          record.Fills (slot.set draft content) members last := by
  constructor
  · intro filled
    cases filled with
    | cons found empty taken others =>
      obtain ⟨slot, listed, rfl, named⟩ := lawful.find?_eq_some_iff.1 found
      have empty : slot.get draft = none :=
        Option.not_isSome_iff_eq_none.1 (Bool.eq_false_iff.1 empty)
      obtain ⟨content, meant, rfl⟩ := (lawful.reads_field_iff listed).1 taken
      exact ⟨slot, listed, named, empty, content, meant, others⟩
  · rintro ⟨slot, listed, named, empty, content, meant, others⟩
    have taken : Reads (slot.field.read draft) value (slot.set draft content) :=
      (lawful.reads_field_iff listed).2 ⟨content, meant, rfl⟩
    exact .cons (lawful.find?_eq_some_iff.2 ⟨slot, listed, rfl, named⟩)
      (congrArg Option.isSome empty) taken others

/-- Members fill a draft, whatever their order, when their keys are known and given once, and every
slot takes what the value of its key means. -/
theorem fills_iff (lawful : record.Slots slots) {draft last : Draft}
    {members : List (String × Value)} :
    record.Fills draft members last ↔
      (keys members).Nodup ∧ (∀ key ∈ keys members, key ∈ slots.map (·.name)) ∧
        ∀ slot ∈ slots, Adds members slot.name slot.means (slot.get draft) (slot.get last) := by
  induction members generalizing draft with
  | nil =>
    constructor
    · intro filled
      cases filled
      exact ⟨List.nodup_nil, fun _ h => absurd h List.not_mem_nil, fun _ _ => adds_nil.2 rfl⟩
    · rintro ⟨-, -, kept⟩
      have same := lawful.ext draft last fun slot listed => (adds_nil.1 (kept slot listed)).symm
      rw [same]
      exact .nil
  | cons member members ih =>
    obtain ⟨key, value⟩ := member
    rw [lawful.fills_cons_iff]
    constructor
    · rintro ⟨slot, listed, rfl, empty, content, meant, others⟩
      obtain ⟨once, known, adds⟩ := ih.1 others
      have own := adds slot listed
      rw [lawful.get_set slot listed] at own
      have fresh : slot.name ∉ keys members := own.2
      refine ⟨List.nodup_cons.2 ⟨fresh, once⟩,
        List.forall_mem_cons.2 ⟨List.mem_map.2 ⟨slot, listed, rfl⟩, known⟩, ?_⟩
      intro other hother
      by_cases same : slot.name = other.name
      · obtain rfl := lawful.eq_of_name_eq listed hother same
        exact (adds_cons_self fresh value).2 ⟨empty, content, meant, own⟩
      · have kept := adds other hother
        rw [lawful.get_set_of_ne slot listed other hother same] at kept
        exact (adds_cons_of_ne (Ne.symm same) value).2 kept
    · rintro ⟨once, known, adds⟩
      obtain ⟨fresh, othersOnce⟩ := List.nodup_cons.1 once
      obtain ⟨named, othersKnown⟩ := List.forall_mem_cons.1 known
      obtain ⟨slot, listed, rfl⟩ := List.mem_map.1 named
      obtain ⟨empty, content, meant, own⟩ := (adds_cons_self fresh value).1 (adds slot listed)
      refine ⟨slot, listed, rfl, empty, content, meant, ih.2 ⟨othersOnce, othersKnown, ?_⟩⟩
      intro other hother
      by_cases same : slot.name = other.name
      · obtain rfl := lawful.eq_of_name_eq listed hother same
        rw [lawful.get_set slot listed]
        exact own
      · rw [lawful.get_set_of_ne slot listed other hother same]
        exact (adds_cons_of_ne (Ne.symm same) value).1 (adds other hother)

/-- An array has an item for the field of a slot, or ends before it. -/
theorem places_cons_iff (lawful : record.Slots slots) {slot : Slot Draft} (listed : slot ∈ slots)
    {fields : List (Field Draft)} {draft last : Draft} {items : List Value} :
    Places (slot.field :: fields) draft items last ↔
      (items = [] ∧ last = draft ∧ ∀ field ∈ slot.field :: fields, field.optional = true) ∨
      ∃ value others content, items = value :: others ∧ slot.means value content ∧
        Places fields (slot.set draft content) others last := by
  constructor
  · intro places
    cases places with
    | close optional => exact .inl ⟨rfl, rfl, optional⟩
    | cons taken others =>
      obtain ⟨content, meant, rfl⟩ := (lawful.reads_field_iff listed).1 taken
      exact .inr ⟨_, _, content, rfl, meant, others⟩
  · rintro (⟨rfl, rfl, optional⟩ | ⟨value, others, content, rfl, meant, places⟩)
    · exact .close optional
    · exact .cons ((lawful.reads_field_iff listed).2 ⟨content, meant, rfl⟩) places

/-- Records decode what is said of their objects by members and of their arrays by items. -/
theorem decodes_of_iff (lawful : record.Slots slots) {denotes : Value → α → Prop}
    (object : ∀ members result, denotes (.object members) result ↔
      ∃ last, record.Fills record.blank members last ∧ record.finish last = .ok result)
    (array : ∀ items result, denotes (.array items) result ↔
      ∃ last, Places record.fields record.blank items last ∧ record.finish last = .ok result)
    (compound : ∀ ⦃value result⦄, denotes value result →
      (∃ members, value = .object members) ∨ ∃ items, value = .array items) :
    Decodes record.read denotes := by
  refine (decodes_read lawful.fieldsDecode).of_iff fun value result => ?_
  constructor
  · rintro (⟨filled, finished⟩ | ⟨places, finished⟩)
    · exact (object _ _).2 ⟨_, filled, finished⟩
    · exact (array _ _).2 ⟨_, places, finished⟩
  · intro denoted
    rcases compound denoted with ⟨members, rfl⟩ | ⟨items, rfl⟩
    · obtain ⟨last, filled, finished⟩ := (object _ _).1 denoted
      exact .object filled finished
    · obtain ⟨last, places, finished⟩ := (array _ _).1 denoted
      exact .array places finished

end Slots

theorem places_nil_iff {draft last : Draft} {items : List Value} :
    Places [] draft items last ↔ items = [] ∧ last = draft := by
  constructor
  · intro places
    cases places with
    | close => exact ⟨rfl, rfl⟩
  · rintro ⟨rfl, rfl⟩
    exact .close fun _ h => absurd h List.not_mem_nil

end Record

end Preflight.Json
