import Preflight.Proofs.Json.Tree
import Preflight.Proofs.Layout.Denotation

/-!
What can be wrong with a JSON document that is to be a layout.

A key may be unknown, given twice or missing, a value may be of another kind than its key asks for,
and so may the values of an array that stands for a record. Entries are records inside a record, so
what is wrong with one of them is wrong with the layout. None of this is found in a value that
denotes a layout.
-/

namespace Preflight

namespace Json

/-- What a record asks of one of its keys. -/
structure Key where
  name : String
  optional : Bool
  /-- The values that the key cannot have. -/
  wrong : Tree → Prop

/-- What can be wrong with a tree that is to be a record with some keys. An array is to hold the
values of the keys in their order. -/
inductive Misfits (record : List Key) : Tree → Prop
  | unknown {members : List (String × Tree)} {key : String} :
    key ∈ keys members → key ∉ record.map (·.name) → Misfits record (.object members)
  | repeated {members : List (String × Tree)} :
    ¬(keys members).Nodup → Misfits record (.object members)
  | missing {members : List (String × Tree)} {key : Key} :
    key ∈ record → key.optional = false → key.name ∉ keys members →
    Misfits record (.object members)
  | member {members : List (String × Tree)} {key : Key} {value : Tree} :
    key ∈ record → (key.name, value) ∈ members → key.wrong value →
    Misfits record (.object members)
  | long {items : List Tree} : record.length < items.length → Misfits record (.array items)
  | short {items : List Tree} {key : Key} :
    key ∈ record.drop items.length → key.optional = false → Misfits record (.array items)
  | item {items : List Tree} {key : Key} {value : Tree} :
    (key, value) ∈ record.zip items → key.wrong value → Misfits record (.array items)
  | plain {tree : Tree} :
    (∀ members, tree ≠ .object members) → (∀ items, tree ≠ .array items) → Misfits record tree

def NotText (tree : Tree) : Prop :=
  ∀ text, tree ≠ .text text

def NotBoolean (tree : Tree) : Prop :=
  ∀ mark, tree ≠ .boolean mark

/-- A tree that is no array, or an array with an item of the wrong kind. -/
def NotList (wrong : Tree → Prop) (tree : Tree) : Prop :=
  (∀ items, tree ≠ .array items) ∨ ∃ items, tree = .array items ∧ ∃ item ∈ items, wrong item

/-! ## Values that fit -/

theorem not_notText {value : Value} {text : String} (h : IsText value text) :
    ¬NotText value.tree := by
  intro wrong
  rw [h] at wrong
  exact wrong text rfl

theorem not_notBoolean {value : Value} {mark : Bool} (h : IsBoolean value mark) :
    ¬NotBoolean value.tree := by
  intro wrong
  rw [h] at wrong
  exact wrong mark rfl

theorem not_notList {α : Type} {means : Value → α → Prop} {wrong : Tree → Prop}
    (fits : ∀ ⦃value result⦄, means value result → ¬wrong value.tree) {value : Value}
    {results : List α} (h : IsArray means value results) : ¬NotList wrong value.tree := by
  obtain ⟨items, rfl, each⟩ := h
  have fit : ∀ item ∈ items, ¬wrong item.tree :=
    ((List.forall₂_and_left items results).1 (each.imp fun _ _ meant => ⟨fits meant, meant⟩)).1
  rw [Value.tree, Value.itemTrees_eq_map]
  rintro (noArray | ⟨trees, same, tree, listed, isWrong⟩)
  · exact noArray _ rfl
  · cases same
    obtain ⟨item, hitem, rfl⟩ := List.mem_map.1 listed
    exact fit item hitem isWrong

theorem Gives.imp {Item : Type} {members : List (String × Item)} {key : String}
    {kind other : Item → Prop} (given : Gives members key kind)
    (imp : ∀ ⦃value⦄, kind value → other value) : Gives members key other := by
  obtain ⟨value, listed, is⟩ := given
  exact ⟨value, listed, imp is⟩

theorem GivesOr.imp {Item : Type} {members : List (String × Item)} {key : String}
    {kind other : Item → Prop} {absent optional : Prop} (given : GivesOr members key kind absent)
    (imp : ∀ ⦃value⦄, kind value → other value) (default : absent → optional) :
    GivesOr members key other optional := by
  rcases given with given | ⟨missing, is⟩
  · exact .inl (given.imp imp)
  · exact .inr ⟨missing, default is⟩

/-- A key that is given once has one value. -/
theorem eq_of_mem_members {Item : Type} {members : List (String × Item)}
    (once : (keys members).Nodup) {key : String} {value other : Item}
    (h : (key, value) ∈ members) (h' : (key, other) ∈ members) : value = other :=
  (Prod.mk.inj (List.inj_on_of_nodup_map once h h' rfl)).2

/-- Nothing is wrong with an object that gives every key a value of its kind, or none when the key
may be left out. -/
theorem not_misfits_object {record : List Key} {members : List (String × Value)}
    (once : (keys members).Nodup) (known : ∀ key ∈ keys members, key ∈ record.map (·.name))
    (given : ∀ key ∈ record,
      GivesOr members key.name (fun value => ¬key.wrong value.tree) (key.optional = true)) :
    ¬Misfits record (Value.object members).tree := by
  have sameKeys : keys (members.map fun member => (member.1, member.2.tree)) = keys members := by
    simp [keys]
  rw [Value.tree, Value.memberTrees_eq_map]
  intro misfit
  generalize same : Tree.object _ = tree at misfit
  cases misfit with
  | unknown listed isUnknown =>
    cases same
    rw [sameKeys] at listed
    exact isUnknown (known _ listed)
  | repeated isRepeated =>
    cases same
    rw [sameKeys] at isRepeated
    exact isRepeated once
  | missing listed required isMissing =>
    cases same
    rw [sameKeys] at isMissing
    rcases given _ listed with given | ⟨-, optional⟩
    · exact isMissing given.mem_keys
    · rw [required] at optional
      cases optional
  | member listed isMember isWrong =>
    cases same
    obtain ⟨⟨name, value⟩, hmember, pair⟩ := List.mem_map.1 isMember
    obtain ⟨rfl, rfl⟩ := Prod.mk.inj pair
    rcases given _ listed with ⟨other, hother, fits⟩ | ⟨isMissing, -⟩
    · rw [eq_of_mem_members once hother hmember] at fits
      exact fits isWrong
    · exact isMissing (List.mem_map.2 ⟨_, hmember, rfl⟩)
  | plain noObject => exact noObject _ same.symm
  | _ => cases same

/-- Nothing is wrong with an array that has a value of its kind for every key but optional ones at
the end. -/
theorem not_misfits_array {record : List Key} {items : List Value}
    (long : items.length ≤ record.length)
    (short : ∀ key ∈ record.drop items.length, key.optional = true)
    (fits : ∀ pair ∈ record.zip items, ¬pair.1.wrong pair.2.tree) :
    ¬Misfits record (Value.array items).tree := by
  rw [Value.tree, Value.itemTrees_eq_map]
  intro misfit
  generalize same : Tree.array _ = tree at misfit
  cases misfit with
  | long isLong =>
    cases same
    rw [List.length_map] at isLong
    omega
  | short left required =>
    cases same
    rw [List.length_map] at left
    rw [short _ left] at required
    cases required
  | item listed isWrong =>
    cases same
    rw [List.zip_map_right] at listed
    obtain ⟨⟨key, value⟩, hpair, pair⟩ := List.mem_map.1 listed
    obtain ⟨rfl, rfl⟩ := Prod.mk.inj pair
    exact fits _ hpair isWrong
  | plain _ noArray => exact noArray _ same.symm
  | _ => cases same

end Json

open Json (NotText NotBoolean NotList Misfits)

/-! ## Entries and layouts -/

namespace Entry

/-- What an entry asks of its keys. -/
def keys : List Json.Key :=
  [⟨"path", false, NotText⟩, ⟨"scan_imports", true, NotBoolean⟩, ⟨"count_lines", true, NotBoolean⟩]

theorem not_misfits_of_denotes {value : Json.Value} {entry : Entry} (h : Denotes value entry) :
    ¬Misfits keys value.tree := by
  cases h with
  | object isObject =>
    refine Json.not_misfits_object isObject.once isObject.known ?_
    simp only [keys, List.forall_mem_cons]
    refine ⟨.inl (isObject.path.imp fun _ => Json.not_notText),
      isObject.scanImports.imp (fun _ => Json.not_notBoolean) fun _ => trivial,
      isObject.countLines.imp (fun _ => Json.not_notBoolean) fun _ => trivial,
      fun _ h => absurd h List.not_mem_nil⟩
  | path =>
    refine Json.not_misfits_array (by simp [keys]) (by simp [keys]) ?_
    simp only [keys, List.zip_cons_cons, List.zip_nil_right, List.forall_mem_cons]
    exact ⟨Json.not_notText rfl, fun _ h => absurd h List.not_mem_nil⟩
  | scan =>
    refine Json.not_misfits_array (by simp [keys]) (by simp [keys]) ?_
    simp only [keys, List.zip_cons_cons, List.zip_nil_right, List.forall_mem_cons]
    exact ⟨Json.not_notText rfl, Json.not_notBoolean rfl, fun _ h => absurd h List.not_mem_nil⟩
  | count =>
    refine Json.not_misfits_array (by simp [keys]) (by simp [keys]) ?_
    simp only [keys, List.zip_cons_cons, List.zip_nil_right, List.forall_mem_cons]
    exact ⟨Json.not_notText rfl, Json.not_notBoolean rfl, Json.not_notBoolean rfl,
      fun _ h => absurd h List.not_mem_nil⟩

end Entry

namespace Layout

/-- What a layout asks of its keys. -/
def keys : List Json.Key :=
  [⟨"manifest", false, NotText⟩, ⟨"required_dependencies", true, NotList NotText⟩,
    ⟨"exempt_prefixes", true, NotList NotText⟩, ⟨"entries", false, NotList (Misfits Entry.keys)⟩]

/-- Nothing is wrong with a value that denotes a layout. -/
theorem not_misfits_of_denotes {value : Json.Value} {layout : Layout} (h : Denotes value layout) :
    ¬Misfits keys value.tree := by
  have texts ⦃value : Json.Value⦄ ⦃texts : List String⦄ (h : Json.IsArray Json.IsText value texts) :
      ¬NotList NotText value.tree := Json.not_notList (fun _ _ => Json.not_notText) h
  have entries ⦃value : Json.Value⦄ ⦃entries : List Entry⦄
      (h : Json.IsArray Entry.Denotes value entries) : ¬NotList (Misfits Entry.keys) value.tree :=
    Json.not_notList (fun _ _ => Entry.not_misfits_of_denotes) h
  cases h with
  | object isObject =>
    refine Json.not_misfits_object isObject.once isObject.known ?_
    simp only [keys, List.forall_mem_cons]
    exact ⟨.inl (isObject.manifest.imp fun _ => Json.not_notText),
      isObject.requiredDependencies.imp (fun _ h => texts h) fun _ => trivial,
      isObject.exemptPrefixes.imp (fun _ h => texts h) fun _ => trivial,
      .inl (isObject.entries.imp fun _ h => entries h), fun _ h => absurd h List.not_mem_nil⟩
  | array isManifest areNames areStarts areEntries =>
    refine Json.not_misfits_array (by simp [keys]) (by simp [keys]) ?_
    simp only [keys, List.zip_cons_cons, List.zip_nil_right, List.forall_mem_cons]
    exact ⟨Json.not_notText isManifest, texts areNames, texts areStarts, entries areEntries,
      fun _ h => absurd h List.not_mem_nil⟩

end Layout

end Preflight
