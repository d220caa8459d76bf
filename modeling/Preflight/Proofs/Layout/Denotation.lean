import Preflight.Layout.Document
import Preflight.Proofs.Json.Members

/-!
What a JSON value says as a layout.

A layout is an object with known keys, none of them twice, or an array of the values in the order
manifest, dependencies, beginnings, entries. Keys that may be left out stand for their defaults; in
an array only what comes last may be left out. Entries are written in the same two ways.

The reader of layouts decodes just that, so a document describes a layout when the one value it
holds denotes the layout.
-/

namespace Preflight

open Json (Value IsText IsBoolean IsArray Gives GivesOr keys)

/-! ## Entries -/

namespace Entry

/-- The members of an object that says what an entry is. -/
structure IsObject (members : List (String × Value)) (entry : Entry) : Prop where
  once : (keys members).Nodup
  known : ∀ key ∈ keys members, key ∈ ["path", "scan_imports", "count_lines"]
  path : Gives members "path" (IsText · entry.path)
  scanImports : GivesOr members "scan_imports" (IsBoolean · entry.scanImports)
    (entry.scanImports = false)
  countLines : GivesOr members "count_lines" (IsBoolean · entry.countLines)
    (entry.countLines = false)

/-- The values that say what an entry is. -/
inductive Denotes : Value → Entry → Prop
  | object {members : List (String × Value)} {entry : Entry} :
    IsObject members entry → Denotes (.object members) entry
  | path {path : String} : Denotes (.array [.text path]) ⟨path, false, false⟩
  | scan {path : String} {scan : Bool} :
    Denotes (.array [.text path, .boolean scan]) ⟨path, scan, false⟩
  | count {path : String} {scan count : Bool} :
    Denotes (.array [.text path, .boolean scan, .boolean count]) ⟨path, scan, count⟩

theorem denotes_object_iff {members : List (String × Value)} {entry : Entry} :
    Denotes (.object members) entry ↔ IsObject members entry := by
  constructor
  · rintro ⟨isObject⟩
    exact isObject
  · exact .object

end Entry

/-! ## Layouts -/

namespace Layout

/-- The members of an object that says what a layout is. -/
structure IsObject (members : List (String × Value)) (layout : Layout) : Prop where
  once : (keys members).Nodup
  known : ∀ key ∈ keys members,
    key ∈ ["manifest", "required_dependencies", "exempt_prefixes", "entries"]
  manifest : Gives members "manifest" (IsText · layout.manifest)
  requiredDependencies : GivesOr members "required_dependencies"
    (IsArray IsText · layout.requiredDependencies) (layout.requiredDependencies = [])
  exemptPrefixes : GivesOr members "exempt_prefixes" (IsArray IsText · layout.exemptPrefixes)
    (layout.exemptPrefixes = ["package:", "dart:", "flutter"])
  entries : Gives members "entries" (IsArray Entry.Denotes · layout.entries)

/-- The values that say what a layout is. -/
inductive Denotes : Value → Layout → Prop
  | object {members : List (String × Value)} {layout : Layout} :
    IsObject members layout → Denotes (.object members) layout
  | array {manifest dependencies beginnings entries : Value} {layout : Layout} :
    IsText manifest layout.manifest → IsArray IsText dependencies layout.requiredDependencies →
    IsArray IsText beginnings layout.exemptPrefixes →
    IsArray Entry.Denotes entries layout.entries →
    Denotes (.array [manifest, dependencies, beginnings, entries]) layout

theorem denotes_object_iff {members : List (String × Value)} {layout : Layout} :
    Denotes (.object members) layout ↔ IsObject members layout := by
  constructor
  · rintro ⟨isObject⟩
    exact isObject
  · exact .object

end Layout

/-! ## Reading entries -/

namespace Entry

def pathSlot : Json.Slot Draft where
  name := "path"
  optional := false
  Content := String
  get := Draft.path
  set := fun draft path => { draft with path := some path }
  reader := Json.readText
  means := IsText

def scanSlot : Json.Slot Draft where
  name := "scan_imports"
  optional := true
  Content := Bool
  get := Draft.scanImports
  set := fun draft mark => { draft with scanImports := some mark }
  reader := Json.readBoolean
  means := IsBoolean

def countSlot : Json.Slot Draft where
  name := "count_lines"
  optional := true
  Content := Bool
  get := Draft.countLines
  set := fun draft mark => { draft with countLines := some mark }
  reader := Json.readBoolean
  means := IsBoolean

def slots : List (Json.Slot Draft) :=
  [pathSlot, scanSlot, countSlot]

theorem record_slots : record.Slots slots where
  fields := rfl
  names := by decide
  decodes := by
    simp only [slots, List.forall_mem_cons]
    exact ⟨Json.decodes_text, Json.decodes_boolean, Json.decodes_boolean,
      fun _ h => absurd h List.not_mem_nil⟩
  get_set := by
    intro slot listed
    simp only [slots, List.mem_cons, List.not_mem_nil, or_false] at listed
    rcases listed with rfl | rfl | rfl <;> exact fun _ _ => rfl
  get_set_of_ne := by
    intro slot hslot other hother ne
    simp only [slots, List.mem_cons, List.not_mem_nil, or_false] at hslot hother
    rcases hslot with rfl | rfl | rfl <;> rcases hother with rfl | rfl | rfl <;>
      first
        | exact absurd rfl ne
        | exact fun _ _ => rfl
  ext := by
    intro ⟨path, scan, count⟩ ⟨path', scan', count'⟩ same
    simp only [slots, List.forall_mem_cons] at same
    obtain ⟨rfl, rfl, rfl, -⟩ := same
    rfl

/-- Members fill an empty draft of an entry when they say what the entry is that comes of it. -/
theorem isObject_iff {members : List (String × Value)} {entry : Entry} :
    IsObject members entry ↔
      ∃ last, record.Fills record.blank members last ∧ record.finish last = .ok entry := by
  simp only [record_slots.fills_iff, slots, List.forall_mem_cons]
  constructor
  · rintro ⟨once, known, path, scan, count⟩
    obtain ⟨scan, addsScan, defaultScan⟩ := (Json.exists_adds_iff IsBoolean).2 scan
    obtain ⟨count, addsCount, defaultCount⟩ := (Json.exists_adds_iff IsBoolean).2 count
    refine ⟨⟨some entry.path, scan, count⟩,
      ⟨once, known, path, addsScan, addsCount, fun _ h => absurd h List.not_mem_nil⟩, ?_⟩
    rw [record]
    dsimp only
    rw [defaultScan, defaultCount]
  · rintro ⟨⟨path, scan, count⟩, ⟨once, known, addsPath, addsScan, addsCount, -⟩, finished⟩
    cases path with
    | none => cases finished
    | some path =>
      cases finished
      exact ⟨once, known, addsPath, (Json.exists_adds_iff IsBoolean).1 ⟨scan, addsScan, rfl⟩,
        (Json.exists_adds_iff IsBoolean).1 ⟨count, addsCount, rfl⟩⟩

/-- Items fill an empty draft of an entry in the three lengths that an array may have. -/
theorem denotes_array_iff {items : List Value} {entry : Entry} :
    Denotes (.array items) entry ↔
      ∃ last, Json.Record.Places record.fields record.blank items last ∧
        record.finish last = .ok entry := by
  have path : pathSlot ∈ slots := by simp [slots]
  have scan : scanSlot ∈ slots := by simp [slots]
  have count : countSlot ∈ slots := by simp [slots]
  rw [record_slots.fields]
  simp only [slots, List.map_cons, List.map_nil, record_slots.places_cons_iff path,
    record_slots.places_cons_iff scan, record_slots.places_cons_iff count,
    Json.Record.places_nil_iff]
  constructor
  · intro denoted
    cases denoted with
    | @path path =>
      exact ⟨⟨some path, none, none⟩,
        .inr ⟨_, _, path, rfl, rfl, .inl ⟨rfl, rfl, by decide⟩⟩, rfl⟩
    | @scan path scan =>
      exact ⟨⟨some path, some scan, none⟩,
        .inr ⟨_, _, path, rfl, rfl, .inr ⟨_, _, scan, rfl, rfl, .inl ⟨rfl, rfl, by decide⟩⟩⟩, rfl⟩
    | @count path scan count =>
      exact ⟨⟨some path, some scan, some count⟩,
        .inr ⟨_, _, path, rfl, rfl, .inr ⟨_, _, scan, rfl, rfl, .inr ⟨_, _, count, rfl, rfl,
          rfl, rfl⟩⟩⟩, rfl⟩
  · rintro ⟨last, ⟨-, -, left⟩ | ⟨_, _, path, rfl, rfl, places⟩, finished⟩
    · cases left pathSlot.field List.mem_cons_self
    · rcases places with ⟨rfl, rfl, -⟩ | ⟨_, _, scan, rfl, rfl, ⟨rfl, rfl, -⟩ |
        ⟨_, _, count, rfl, rfl, rfl, rfl⟩⟩
      · cases finished
        exact .path
      · cases finished
        exact .scan
      · cases finished
        exact .count

/-- The reader of entries decodes the values that denote entries. -/
theorem decodes : Json.Decodes record.read Denotes := by
  refine record_slots.decodes_of_iff (fun members entry => denotes_object_iff.trans isObject_iff)
    (fun items entry => denotes_array_iff) ?_
  rintro value entry (_ | _ | _ | _)
  · exact .inl ⟨_, rfl⟩
  all_goals exact .inr ⟨_, rfl⟩

end Entry

/-! ## Reading layouts -/

namespace Layout

def manifestSlot : Json.Slot Draft where
  name := "manifest"
  optional := false
  Content := String
  get := Draft.manifest
  set := fun draft path => { draft with manifest := some path }
  reader := Json.readText
  means := IsText

def requiredDependenciesSlot : Json.Slot Draft where
  name := "required_dependencies"
  optional := true
  Content := List String
  get := Draft.requiredDependencies
  set := fun draft names => { draft with requiredDependencies := some names }
  reader := Json.readList Json.readText
  means := IsArray IsText

def exemptPrefixesSlot : Json.Slot Draft where
  name := "exempt_prefixes"
  optional := true
  Content := List String
  get := Draft.exemptPrefixes
  set := fun draft starts => { draft with exemptPrefixes := some starts }
  reader := Json.readList Json.readText
  means := IsArray IsText

def entriesSlot : Json.Slot Draft where
  name := "entries"
  optional := false
  Content := List Entry
  get := Draft.entries
  set := fun draft entries => { draft with entries := some entries }
  reader := Json.readList Entry.record.read
  means := IsArray Entry.Denotes

def slots : List (Json.Slot Draft) :=
  [manifestSlot, requiredDependenciesSlot, exemptPrefixesSlot, entriesSlot]

theorem record_slots : record.Slots slots where
  fields := rfl
  names := by decide
  decodes := by
    simp only [slots, List.forall_mem_cons]
    exact ⟨Json.decodes_text, Json.decodes_text.list, Json.decodes_text.list, Entry.decodes.list,
      fun _ h => absurd h List.not_mem_nil⟩
  get_set := by
    intro slot listed
    simp only [slots, List.mem_cons, List.not_mem_nil, or_false] at listed
    rcases listed with rfl | rfl | rfl | rfl <;> exact fun _ _ => rfl
  get_set_of_ne := by
    intro slot hslot other hother ne
    simp only [slots, List.mem_cons, List.not_mem_nil, or_false] at hslot hother
    rcases hslot with rfl | rfl | rfl | rfl <;> rcases hother with rfl | rfl | rfl | rfl <;>
      first
        | exact absurd rfl ne
        | exact fun _ _ => rfl
  ext := by
    intro ⟨manifest, names, starts, entries⟩ ⟨manifest', names', starts', entries'⟩ same
    simp only [slots, List.forall_mem_cons] at same
    obtain ⟨rfl, rfl, rfl, rfl, -⟩ := same
    rfl

/-- Members fill an empty draft of a layout when they say what the layout is that comes of it. -/
theorem isObject_iff {members : List (String × Value)} {layout : Layout} :
    IsObject members layout ↔
      ∃ last, record.Fills record.blank members last ∧ record.finish last = .ok layout := by
  simp only [record_slots.fills_iff, slots, List.forall_mem_cons]
  constructor
  · rintro ⟨once, known, manifest, names, starts, entries⟩
    obtain ⟨names, addsNames, defaultNames⟩ := (Json.exists_adds_iff (IsArray IsText)).2 names
    obtain ⟨starts, addsStarts, defaultStarts⟩ := (Json.exists_adds_iff (IsArray IsText)).2 starts
    refine ⟨⟨some layout.manifest, names, starts, some layout.entries⟩,
      ⟨once, known, manifest, addsNames, addsStarts, entries,
        fun _ h => absurd h List.not_mem_nil⟩, ?_⟩
    rw [record]
    dsimp only
    rw [defaultNames, defaultExemptPrefixes, defaultStarts]
  · rintro ⟨⟨manifest, names, starts, entries⟩,
      ⟨once, known, addsManifest, addsNames, addsStarts, addsEntries, -⟩, finished⟩
    cases manifest with
    | none => cases finished
    | some manifest =>
      cases entries with
      | none => cases finished
      | some entries =>
        cases finished
        exact ⟨once, known, addsManifest,
          (Json.exists_adds_iff (IsArray IsText)).1 ⟨names, addsNames, rfl⟩,
          (Json.exists_adds_iff (IsArray IsText)).1 ⟨starts, addsStarts, rfl⟩, addsEntries⟩

/-- Items fill an empty draft of a layout when there is one for every field. -/
theorem denotes_array_iff {items : List Value} {layout : Layout} :
    Denotes (.array items) layout ↔
      ∃ last, Json.Record.Places record.fields record.blank items last ∧
        record.finish last = .ok layout := by
  have manifest : manifestSlot ∈ slots := by simp [slots]
  have names : requiredDependenciesSlot ∈ slots := by simp [slots]
  have starts : exemptPrefixesSlot ∈ slots := by simp [slots]
  have entries : entriesSlot ∈ slots := by simp [slots]
  rw [record_slots.fields]
  simp only [slots, List.map_cons, List.map_nil,
    record_slots.places_cons_iff manifest, record_slots.places_cons_iff names,
    record_slots.places_cons_iff starts, record_slots.places_cons_iff entries,
    Json.Record.places_nil_iff]
  constructor
  · intro denoted
    cases denoted with
    | array isManifest areNames areStarts areEntries =>
      exact ⟨⟨some layout.manifest, some layout.requiredDependencies, some layout.exemptPrefixes,
        some layout.entries⟩, .inr ⟨_, _, _, rfl, isManifest, .inr ⟨_, _, _, rfl, areNames,
          .inr ⟨_, _, _, rfl, areStarts, .inr ⟨_, _, _, rfl, areEntries, rfl, rfl⟩⟩⟩⟩, rfl⟩
  · -- The array cannot end early, for the entries come last.
    rintro ⟨last, ⟨-, -, left⟩ | ⟨_, _, path, rfl, isManifest, ⟨-, -, left⟩ |
      ⟨_, _, names, rfl, areNames, ⟨-, -, left⟩ | ⟨_, _, starts, rfl, areStarts, ⟨-, -, left⟩ |
      ⟨_, _, entries, rfl, areEntries, rfl, rfl⟩⟩⟩⟩, finished⟩
    · cases left entriesSlot.field (by simp)
    · cases left entriesSlot.field (by simp)
    · cases left entriesSlot.field (by simp)
    · cases left entriesSlot.field (by simp)
    · cases finished
      exact .array isManifest areNames areStarts areEntries

/-- The reader of layouts decodes the values that denote layouts. -/
theorem decodes : Json.Decodes record.read Denotes := by
  refine record_slots.decodes_of_iff (fun members layout => denotes_object_iff.trans isObject_iff)
    (fun items layout => denotes_array_iff) ?_
  rintro value layout (_ | _)
  · exact .inl ⟨_, rfl⟩
  all_goals exact .inr ⟨_, rfl⟩

/-- A document describes a layout when the value that it holds denotes the layout. -/
theorem ofDocument_eq_ok_iff {text : String} {layout : Layout} :
    ofDocument text = .ok layout ↔
      ∃ value, Json.DocumentSpelling value text.toList ∧ Denotes value layout :=
  decodes.readDocument_eq_ok_iff

end Layout

end Preflight
