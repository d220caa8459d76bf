import Preflight.Proofs.Layout.Misfit
import Preflight.Proofs.Layout.RoundTrip

/-!
What comes of loading a file that holds a text.

The text is parsed before the layout is judged. When it spells a value that denotes a layout, the
layout is loaded or its first violation is told; any other text is malformed, however the layout
that it may have been meant for would be judged.
-/

namespace Preflight.Layout

open Json (DocumentSpelling Misfits)

/-! ## Texts that describe no layout -/

/-- A layout is judged when a file describes it, and the first violation is told. -/
theorem load_eq_invalid_iff {disk : Disk} {path : String} {violation : Violation} :
    load disk path = .error (.invalid violation) ↔
      ∃ text layout, disk.Holds path text ∧ ofDocument text = .ok layout ∧
        layout.validate = .error violation := by
  constructor
  · intro judged
    rw [load] at judged
    split at judged
    · cases judged
    · next bytes read =>
      split at judged
      · cases judged
      · next text decoded =>
        have held : disk.Holds path text := by
          rw [Disk.Holds, read, Text.Utf8.decode_eq_ok_iff.1 decoded]
        split at judged
        · cases judged
        · next layout described =>
          split at judged
          · next invalid =>
            cases judged
            exact ⟨text, layout, held, described, invalid⟩
          · cases judged
  · rintro ⟨text, layout, held, described, invalid⟩
    rw [load_eq_of_ofDocument held described, invalid]

/-- A text that describes no layout is malformed. -/
theorem exists_malformed {disk : Disk} {path text : String} (held : disk.Holds path text)
    (undescribed : ∀ layout, ofDocument text ≠ .ok layout) :
    ∃ cause, load disk path = .error (.malformed path cause) := by
  have read : disk.read path = .ok (Text.Utf8.encode text) := held
  rw [load]
  simp only [read, Text.Utf8.decode_eq_ok_iff.2 rfl]
  cases described : ofDocument text with
  | error cause => exact ⟨cause, rfl⟩
  | ok layout => exact absurd described (undescribed layout)

/-! ## Only layouts -/

/-- A value that denotes a layout is an array or an object. -/
theorem Denotes.compound {value : Json.Value} {layout : Layout} (h : Denotes value layout) :
    (∃ items, value.tree = .array items) ∨ ∃ members, value.tree = .object members := by
  cases h with
  | object => exact .inr ⟨_, rfl⟩
  | array => exact .inl ⟨_, rfl⟩

/-- Only documents that denote layouts are loaded, and only they are judged. Every other text is
malformed: one that spells no JSON value, one that goes on behind its value, and one whose value
does not fit, be it as a whole, in an entry or deeper. -/
theorem load_accepts_only_layouts :
    (∀ (disk : Disk) (path : String) (layout : Layout), load disk path = .ok layout →
      layout.validate = .ok () ∧ ∃ text value, disk.Holds path text ∧
        DocumentSpelling value text.toList ∧ Denotes value layout) ∧
    (∀ (disk : Disk) (path : String) (violation : Violation),
      load disk path = .error (.invalid violation) →
      ∃ text value layout, disk.Holds path text ∧ DocumentSpelling value text.toList ∧
        Denotes value layout ∧ layout.validate = .error violation) ∧
    ∀ (disk : Disk) (path text : String), disk.Holds path text →
      (¬∃ value layout, DocumentSpelling value text.toList ∧ Denotes value layout) ∨
        (¬∃ tree, Json.Tree.Document tree text.toList) ∨
        (∃ tree front behind, text.toList = front ++ behind ∧ Json.Tree.Document tree front ∧
          ¬Json.IsGap behind) ∨
        (∃ tree, Json.Tree.Document tree text.toList ∧ Misfits keys tree) →
      ∃ cause, load disk path = .error (.malformed path cause) := by
  refine ⟨?_, ?_, ?_⟩
  · intro disk path layout loaded
    obtain ⟨text, held, described, valid⟩ := load_eq_ok_iff.1 loaded
    obtain ⟨value, spelled, denoted⟩ := ofDocument_eq_ok_iff.1 described
    exact ⟨valid, text, value, held, spelled, denoted⟩
  · intro disk path violation judged
    obtain ⟨text, layout, held, described, invalid⟩ := load_eq_invalid_iff.1 judged
    obtain ⟨value, spelled, denoted⟩ := ofDocument_eq_ok_iff.1 described
    exact ⟨text, value, layout, held, spelled, denoted, invalid⟩
  · intro disk path text held bad
    refine exists_malformed held fun layout described => ?_
    obtain ⟨value, spelled, denoted⟩ := ofDocument_eq_ok_iff.1 described
    rcases bad with undenoted | unspelled | ⟨tree, front, behind, cut, document, more⟩ |
      ⟨tree, document, misfit⟩
    · exact undenoted ⟨value, layout, spelled, denoted⟩
    · exact unspelled ⟨value.tree, spelled.tree⟩
    · have whole := spelled.tree
      rw [cut] at whole
      exact more (document.isGap_of_append whole denoted.compound)
    · rw [document.unique spelled.tree] at misfit
      exact not_misfits_of_denotes denoted misfit

/-- Files whose names are their texts: an array that is a layout, a layout without entries, a typing
error in a key of an entry whose path leaves the root, no value at all, and a letter behind a
layout. -/
theorem load_accepts_only_layouts_files :
    let disk : Disk := .ofLook fun path => .ok (.file (Text.Utf8.encode path))
    let layout : Layout := ⟨"m", [], [], [⟨"a", false, false⟩]⟩
    let mistyped : Json.Value :=
      .object
        [("manifest", .text "m"),
          ("entries", .array [.object [("path", .text "../a"), ("scan_import", .boolean true)]])]
    (layout.validate = .ok () ∧ ∃ text value, disk.Holds "[\"m\",[],[],[[\"a\"]]]" text ∧
      DocumentSpelling value text.toList ∧ Denotes value layout) ∧
    (∃ text value found, disk.Holds "[\"m\",[],[],[]]" text ∧ DocumentSpelling value text.toList ∧
      Denotes value found ∧ found.validate = .error .noEntries) ∧
    (∃ cause, load disk mistyped.indented = .error (.malformed mistyped.indented cause)) ∧
    (∃ cause, load disk "" = .error (.malformed "" cause)) ∧
    ∃ cause, load disk (layout.print ++ "x") = .error (.malformed (layout.print ++ "x") cause) := by
  intro disk layout mistyped
  have written (value : Json.Value) : Json.Tree.Document value.tree value.indented.toList := by
    have document := DocumentSpelling.mk .nil (Json.spelling_indented value) .nil
    rw [List.nil_append, List.append_nil] at document
    exact document.tree
  refine ⟨?_, ?_, ?_, ?_, ?_⟩
  · exact load_accepts_only_layouts.1 disk _ layout rfl
  · exact load_accepts_only_layouts.2.1 disk _ .noEntries rfl
  · refine load_accepts_only_layouts.2.2 disk _ _ rfl (.inr (.inr (.inr ⟨_, written mistyped, ?_⟩)))
    have given : "scan_import" ∈ Json.keys
        [("path", Json.Tree.text "../a"), ("scan_import", Json.Tree.boolean true)] := by decide
    have unknown : "scan_import" ∉ Entry.keys.map (·.name) := by simp [Entry.keys]
    have entries : (⟨"entries", false, Json.NotList (Misfits Entry.keys)⟩ : Json.Key) ∈ keys := by
      simp [keys]
    exact .member entries (List.mem_cons_of_mem _ List.mem_cons_self)
      (.inr ⟨_, rfl, _, List.mem_cons_self, .unknown given unknown⟩)
  · refine load_accepts_only_layouts.2.2 disk _ _ rfl (.inr (.inl ?_))
    rintro ⟨tree, document⟩
    generalize empty : "".toList = text at document
    cases document with
    | mk before this after =>
      obtain ⟨c, others, rfl, -⟩ := Json.Tree.exists_cons_of_spelling this
      simp at empty
  · refine load_accepts_only_layouts.2.2 disk _ _ rfl
      (.inr (.inr (.inl ⟨_, _, _, String.toList_append, written layout.toJson, ?_⟩)))
    intro gap
    rcases gap 'x' (by decide) with h | h | h | h <;> cases h

/-! ## All ways to write a layout -/

/-- A file is loaded as the layout that its document denotes, however that is written, or as the
first violation of that layout. -/
theorem load_of_denotes {layout : Layout} {value : Json.Value} {disk : Disk} {path text : String}
    (held : disk.Holds path text) (spelled : DocumentSpelling value text.toList)
    (denoted : Denotes value layout) :
    load disk path =
      match layout.validate with
      | .ok () => .ok layout
      | .error violation => .error (.invalid violation) := by
  exact load_eq_of_ofDocument held (ofDocument_eq_ok_iff.2 ⟨value, spelled, denoted⟩)

/-- A layout with its members and those of its entry in another order, with keys and texts in
escapes, gaps between the tokens, and all that may be left out left out. -/
theorem load_of_denotes_escapes :
    let text :=
      "\x7b\"entries\" :\n[\t\x7b\"scan_imports\":true,\"p\\u0061th\":\"\\uD83D\\ude00\"\x7d " ++
        "],\"m\\u0061nifest\":\"\\u00E9\\/\"\r\x7d"
    let layout : Layout := ⟨"é/", [], ["package:", "dart:", "flutter"], [⟨"😀", true, false⟩]⟩
    let disk : Disk := .ofLook fun _ => .ok (.file (Text.Utf8.encode text))
    (∃ value, DocumentSpelling value text.toList ∧ Denotes value layout) ∧
      layout.validate = .ok () ∧ load disk "l.json" = .ok layout := by
  intro text layout disk
  have valid : layout.validate = .ok () := by decide
  have described : ofDocument text = .ok layout := by
    simp only [text, layout]
    rfl
  obtain ⟨value, spelled, denoted⟩ := ofDocument_eq_ok_iff.1 described
  refine ⟨⟨value, spelled, denoted⟩, valid, ?_⟩
  have held : disk.Holds "l.json" text := rfl
  have loaded := load_of_denotes held spelled denoted
  rwa [valid] at loaded

end Preflight.Layout
