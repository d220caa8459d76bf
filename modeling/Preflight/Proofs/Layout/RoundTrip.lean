import Mathlib.Data.List.Forall2
import Preflight.Program
import Preflight.Proofs.Json.Indented
import Preflight.Proofs.Json.Reading
import Preflight.Proofs.Source
import Preflight.Proofs.Terminal.Sink

/-!
Loading a printed layout gives the layout back, or says what is wrong with it.

Each field of a record, while it is empty, takes the value that printing gives it. So the document
of a layout fills a draft that makes the layout, and a file with the bytes of that document is
loaded as the layout it describes.
-/

namespace Preflight

open Json (Reads)

namespace Entry

variable {draft last : Draft} {members : List (String × Json.Value)}

theorem fills_path (path : String) (empty : draft.path = none)
    (others : record.Fills { draft with path := some path } members last) :
    record.Fills draft (("path", .text path) :: members) last :=
  .cons rfl (congrArg Option.isSome empty)
    ((Json.reads_text path).map fun path => { draft with path := some path }) others

theorem fills_scanImports (mark : Bool) (empty : draft.scanImports = none)
    (others : record.Fills { draft with scanImports := some mark } members last) :
    record.Fills draft (("scan_imports", .boolean mark) :: members) last :=
  .cons rfl (congrArg Option.isSome empty)
    ((Json.reads_boolean mark).map fun mark => { draft with scanImports := some mark }) others

theorem fills_countLines (mark : Bool) (empty : draft.countLines = none)
    (others : record.Fills { draft with countLines := some mark } members last) :
    record.Fills draft (("count_lines", .boolean mark) :: members) last :=
  .cons rfl (congrArg Option.isSome empty)
    ((Json.reads_boolean mark).map fun mark => { draft with countLines := some mark }) others

/-- The document of an entry is read as the entry. -/
theorem reads_toJson (entry : Entry) : Reads record.read entry.toJson entry := by
  have filled : record.Fills record.blank _
      ⟨some entry.path, some entry.scanImports, some entry.countLines⟩ :=
    fills_path entry.path rfl <| fills_scanImports entry.scanImports rfl <|
      fills_countLines entry.countLines rfl .nil
  exact Json.Record.reads_of_fills filled rfl

end Entry

namespace Layout

/-- Documents of texts are read as a list of texts. -/
theorem reads_texts (texts : List String) :
    Reads (Json.readList Json.readText) (.array (texts.map .text)) texts := by
  refine .list ?_
  rw [List.forall₂_map_left_iff, List.forall₂_same]
  exact fun text _ => Json.reads_text text

/-- Documents of entries are read as a list of entries. -/
theorem reads_entries (entries : List Entry) :
    Reads (Json.readList Entry.record.read) (.array (entries.map Entry.toJson)) entries := by
  refine .list ?_
  rw [List.forall₂_map_left_iff, List.forall₂_same]
  exact fun entry _ => entry.reads_toJson

section Fields

variable {draft last : Draft} {members : List (String × Json.Value)}

theorem fills_manifest (path : String) (empty : draft.manifest = none)
    (others : record.Fills { draft with manifest := some path } members last) :
    record.Fills draft (("manifest", .text path) :: members) last :=
  .cons rfl (congrArg Option.isSome empty)
    ((Json.reads_text path).map fun path => { draft with manifest := some path }) others

theorem fills_requiredDependencies (names : List String)
    (empty : draft.requiredDependencies = none)
    (others : record.Fills { draft with requiredDependencies := some names } members last) :
    record.Fills draft (("required_dependencies", .array (names.map .text)) :: members) last :=
  .cons rfl (congrArg Option.isSome empty)
    ((reads_texts names).map fun names => { draft with requiredDependencies := some names }) others

theorem fills_exemptPrefixes (starts : List String) (empty : draft.exemptPrefixes = none)
    (others : record.Fills { draft with exemptPrefixes := some starts } members last) :
    record.Fills draft (("exempt_prefixes", .array (starts.map .text)) :: members) last :=
  .cons rfl (congrArg Option.isSome empty)
    ((reads_texts starts).map fun starts => { draft with exemptPrefixes := some starts }) others

theorem fills_entries (entries : List Entry) (empty : draft.entries = none)
    (others : record.Fills { draft with entries := some entries } members last) :
    record.Fills draft (("entries", .array (entries.map Entry.toJson)) :: members) last :=
  .cons rfl (congrArg Option.isSome empty)
    ((reads_entries entries).map fun entries => { draft with entries := some entries }) others

end Fields

/-- The document of a layout is read as the layout. -/
theorem reads_toJson (layout : Layout) : Reads record.read layout.toJson layout := by
  have filled : record.Fills record.blank _
      ⟨some layout.manifest, some layout.requiredDependencies, some layout.exemptPrefixes,
        some layout.entries⟩ :=
    fills_manifest layout.manifest rfl <|
      fills_requiredDependencies layout.requiredDependencies rfl <|
      fills_exemptPrefixes layout.exemptPrefixes rfl <| fills_entries layout.entries rfl .nil
  exact Json.Record.reads_of_fills filled rfl

/-- A printed layout describes itself, whatever gap is behind it. -/
theorem ofDocument_print_append (layout : Layout) (after : String) (gap : Json.IsGap after.toList) :
    ofDocument (layout.print ++ after) = .ok layout := by
  refine Json.readDocument_of_reads layout.reads_toJson ?_
  rw [String.toList_append]
  exact .mk .nil (Json.spelling_indented layout.toJson) gap

theorem ofDocument_print (layout : Layout) : ofDocument layout.print = .ok layout := by
  have described := layout.ofDocument_print_append "" .nil
  rwa [String.append_empty] at described

/-- A file with the bytes of a text is loaded as the layout which that text describes. -/
theorem load_eq_of_ofDocument {disk : Disk} {path text : String} {layout : Layout}
    (held : disk.Holds path text) (described : ofDocument text = .ok layout) :
    load disk path =
      match layout.validate with
      | .ok () => .ok layout
      | .error violation => .error (.invalid violation) := by
  have read : disk.read path = .ok (Text.Utf8.encode text) := held
  rw [load]
  simp only [read, Text.Utf8.decode_eq_ok_iff.2 rfl, described]
  cases layout.validate <;> rfl

/-- A layout is loaded from the files that describe it, if it is sound. -/
theorem load_eq_ok_iff {disk : Disk} {path : String} {layout : Layout} :
    load disk path = .ok layout ↔
      ∃ text, disk.Holds path text ∧ ofDocument text = .ok layout ∧ layout.validate = .ok () := by
  constructor
  · intro loaded
    rw [load] at loaded
    split at loaded
    · cases loaded
    · next bytes read =>
      split at loaded
      · cases loaded
      · next text decoded =>
        have held : disk.Holds path text := by
          rw [Disk.Holds, read, Text.Utf8.decode_eq_ok_iff.1 decoded]
        split at loaded
        · cases loaded
        · next described =>
          split at loaded
          · cases loaded
          · next valid =>
            cases loaded
            exact ⟨text, held, described, valid⟩
  · rintro ⟨text, held, described, valid⟩
    rw [load_eq_of_ofDocument held described, valid]

/-- What printing writes to a sink that takes everything: the layout and a line break. -/
theorem output_printLayout (layout : Layout) :
    (Program.printLayout .unlimited layout).output = Text.Utf8.encode (layout.print ++ "\n") := by
  rw [Text.Utf8.encode_append, print, Json.Value.indented, Text.Utf8.encode_join]
  simp [Program.printLayout, Terminal.Sink.write, Terminal.Sink.unlimited, List.flatMap_append]

/-- A file holds a printed layout, with the line break that ends the output or without it. -/
def IsStored (layout : Layout) (disk : Disk) (path : String) : Prop :=
  disk.Holds path layout.print ∨
    disk.read path = .ok (Program.printLayout .unlimited layout).output

theorem load_of_isStored {layout : Layout} {disk : Disk} {path : String}
    (stored : layout.IsStored disk path) :
    load disk path =
      match layout.validate with
      | .ok () => .ok layout
      | .error violation => .error (.invalid violation) := by
  rcases stored with stored | stored
  · exact load_eq_of_ofDocument stored layout.ofDocument_print
  · rw [output_printLayout] at stored
    exact load_eq_of_ofDocument stored
      (layout.ofDocument_print_append _ (.singleton (.inr (.inl rfl))))

/-- No two layouts are printed alike. -/
theorem print_injective : Function.Injective print := by
  intro layout other same
  have described := layout.ofDocument_print
  rw [same, other.ofDocument_print] at described
  exact (Except.ok.inj described).symm

/-- Loading what was printed gives the layout, every field as it was, or the one thing that is wrong
with it; so printing tells layouts apart, and a sound layout is printed again byte by byte. -/
theorem load_printed :
    (∀ (layout : Layout) (disk : Disk) (path : String), layout.IsStored disk path →
      load disk path =
        match layout.validate with
        | .ok () => .ok layout
        | .error violation => .error (.invalid violation)) ∧
    (∀ layout other : Layout,
      layout.print = other.print ∨
        (Program.printLayout .unlimited layout).output =
          (Program.printLayout .unlimited other).output →
      layout = other) ∧
    ∀ (layout : Layout) (disk : Disk) (path : String), layout.IsStored disk path →
      layout.validate = .ok () →
      ∃ loaded, load disk path = .ok loaded ∧ loaded.print = layout.print ∧
        (Program.printLayout .unlimited loaded).output =
          (Program.printLayout .unlimited layout).output := by
  refine ⟨fun _ _ _ stored => load_of_isStored stored, ?_, ?_⟩
  · rintro layout other (same | same)
    · exact print_injective same
    · rw [output_printLayout, output_printLayout] at same
      have text := Text.Utf8.encode_injective same
      exact print_injective ((String.append_left_inj _).1 text)
  · intro layout disk path stored valid
    have loaded := load_of_isStored stored
    rw [valid] at loaded
    exact ⟨layout, loaded, rfl, rfl⟩

/-- A layout whose texts need every kind of escape, printed into the one file there is. -/
theorem load_printed_escapes :
    let layout : Layout := ⟨"\"a\\\x01", [], ["\x7f", "\t"], [⟨"b\n😀", true, false⟩]⟩
    let disk : Disk := .ofLook fun _ => .ok (.file (Text.Utf8.encode layout.print))
    layout.IsStored disk "l.json" ∧ layout.validate = .ok () ∧
      load disk "l.json" = .ok layout := by
  intro layout disk
  have stored : layout.IsStored disk "l.json" := .inl rfl
  have valid : layout.validate = .ok () := by decide
  refine ⟨stored, valid, ?_⟩
  rw [load_printed.1 layout disk "l.json" stored, valid]

end Layout

end Preflight
