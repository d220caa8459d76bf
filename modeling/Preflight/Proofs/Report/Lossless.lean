import Mathlib.Algebra.Group.Nat.Defs
import Preflight.Proofs.Json.Document
import Preflight.Proofs.Json.Indented
import Preflight.Proofs.Report.Render

/-!
A report in JSON can be read back, and nothing of it is lost.

Each type that a report is made of gets a decoder, which looks at the members of an object by their
keys alone and never at their order. A decoder undoes the encoder of its type; as the text of a
report spells one value only, decoding what the text spells gives the report back.
-/

namespace Preflight

/-! ## Members of a value -/

namespace Json.Value

/-- The value behind a key of an object. -/
def member? (key : String) : Value → Option Value
  | .object members => members.lookup key
  | _ => none

def text? : Value → Option String
  | .text value => some value
  | _ => none

def boolean? : Value → Option Bool
  | .boolean value => some value
  | _ => none

def number? : Value → Option Nat
  | .number value => some value
  | _ => none

/-- The items of an array, each decoded. -/
def list? {α : Type} (item? : Value → Option α) : Value → Option (List α)
  | .array items => items.mapM item?
  | _ => none

/-- A list is decoded when its items are. -/
theorem list?_array_map {α : Type} {encode : α → Value} {item? : Value → Option α}
    (undone : ∀ item, item? (encode item) = some item) (items : List α) :
    list? item? (.array (items.map encode)) = some items := by
  induction items with
  | nil => rfl
  | cons item items ih =>
    rw [list?] at ih
    rw [list?, List.map_cons, List.mapM_cons, undone, ih]
    rfl

end Json.Value

/-! ## Findings -/

/-- The kind of read error that goes by a name. -/
def ReadErrorKind.ofName? (name : String) : Option ReadErrorKind :=
  [ReadErrorKind.io, .decode].find? (·.name == name)

/-- Decode a finding: its kind says which other members belong to it. -/
def Finding.ofJson? (value : Json.Value) : Option Finding := do
  let text (key : String) := (value.member? key).bind Json.Value.text?
  let error := (text "error").bind ReadErrorKind.ofName?
  match ← text "kind" with
  | "missing_file" => return .missingFile (← text "path")
  | "malformed_import" => return .malformedImport (← text "file") (← text "target")
  | "file_read" => return .fileRead (← text "path") (← error) (← text "message")
  | "manifest_read" => return .manifestRead (← text "path") (← error) (← text "message")
  | "missing_dependency" => return .missingDependency (← text "name")
  | _ => none

theorem Finding.ofJson?_toJson (finding : Finding) : ofJson? finding.toJson = some finding := by
  cases finding with
  | fileRead path kind message | manifestRead path kind message => cases kind <;> rfl
  | _ => rfl

/-! ## Results and reports -/

/-- Decode statistics. -/
def Metrics.ofJson? (value : Json.Value) : Option Metrics := do
  let number (key : String) := (value.member? key).bind Json.Value.number?
  return ⟨← number "total_files", ← number "total_lines", ← number "average_lines"⟩

theorem Metrics.ofJson?_toJson (metrics : Metrics) : ofJson? metrics.toJson = some metrics := rfl

/-- Decode the result of a check. A result without statistics is one that has no member for them. -/
def CheckResult.ofJson? (value : Json.Value) : Option CheckResult := do
  let name ← (← value.member? "name").text?
  let passed ← (← value.member? "passed").boolean?
  let findings ← (← value.member? "findings").list? Finding.ofJson?
  match value.member? "metrics" with
  | none => return ⟨name, passed, findings, none⟩
  | some metrics => return ⟨name, passed, findings, some (← Metrics.ofJson? metrics)⟩

theorem CheckResult.ofJson?_toJson (result : CheckResult) :
    ofJson? result.toJson = some result := by
  obtain ⟨name, passed, findings, metrics⟩ := result
  have decoded := Json.Value.list?_array_map Finding.ofJson?_toJson findings
  cases metrics with
  | none =>
    calc ofJson? (toJson ⟨name, passed, findings, none⟩)
        = (Json.Value.list? Finding.ofJson? (.array (findings.map Finding.toJson))).bind
            fun findings => some ⟨name, passed, findings, none⟩ := rfl
      _ = some ⟨name, passed, findings, none⟩ := by rw [decoded]; rfl
  | some metrics =>
    calc ofJson? (toJson ⟨name, passed, findings, some metrics⟩)
        = (Json.Value.list? Finding.ofJson? (.array (findings.map Finding.toJson))).bind
            fun findings => (Metrics.ofJson? metrics.toJson).bind
              fun metrics => some ⟨name, passed, findings, some metrics⟩ := rfl
      _ = some ⟨name, passed, findings, some metrics⟩ := by
          rw [decoded, Metrics.ofJson?_toJson]; rfl

/-- What the document of a report says: the verdict, the two counts, and the results they are
about. -/
structure Report.Document where
  passed : Bool
  passedChecks : Nat
  totalChecks : Nat
  results : List CheckResult
  deriving DecidableEq, Repr

namespace Report

/-- Decode a report. -/
def Document.ofJson? (value : Json.Value) : Option Document := do
  let passed ← (← value.member? "passed").boolean?
  let passedChecks ← (← value.member? "passed_checks").number?
  let totalChecks ← (← value.member? "total_checks").number?
  let results ← (← value.member? "checks").list? CheckResult.ofJson?
  return ⟨passed, passedChecks, totalChecks, results⟩

/-- Read a report from the text of a document. -/
def Document.ofText? (text : String) : Option Document :=
  (Json.Value.ofDocument text).toOption.bind Document.ofJson?

theorem ofJson?_toJson (report : Report) :
    Document.ofJson? report.toJson =
      some ⟨report.allPassed, report.passedCount, report.total, report.results⟩ := by
  have decoded := Json.Value.list?_array_map CheckResult.ofJson?_toJson report.results
  calc Document.ofJson? report.toJson
      = (Json.Value.list? CheckResult.ofJson? (.array (report.results.map CheckResult.toJson))).bind
          fun results =>
            some ⟨report.allPassed, report.passedCount, report.total, results⟩ := rfl
    _ = some ⟨report.allPassed, report.passedCount, report.total, report.results⟩ := by
        rw [decoded]; rfl

/-! ## The text of a report -/

theorem render_json (report : Report) (coloured : Bool) :
    report.render .json coloured = report.toJson.indented ++ "\n" := by
  simp [render, pieces, jsonPieces, Json.Value.indented, String.join_append]

/-- The text of a report is read as the report, whatever gap is behind it. -/
theorem ofText?_indented_append (report : Report) (after : String)
    (gap : Json.IsGap after.toList) :
    Document.ofText? (report.toJson.indented ++ after) =
      some ⟨report.allPassed, report.passedCount, report.total, report.results⟩ := by
  have spelled : Json.DocumentSpelling report.toJson (report.toJson.indented ++ after).toList := by
    rw [String.toList_append]
    exact .mk .nil (Json.spelling_indented report.toJson) gap
  rw [Document.ofText?, Json.ofDocument_of_spelling spelled]
  exact report.ofJson?_toJson

/-- The text of a report in JSON is read as the report. -/
theorem ofText?_render_json (report : Report) (coloured : Bool) :
    Document.ofText? (report.render .json coloured) =
      some ⟨report.allPassed, report.passedCount, report.total, report.results⟩ := by
  rw [render_json]
  exact report.ofText?_indented_append "\n" (.singleton (.inr (.inl rfl)))

/-- No two reports are rendered alike. -/
theorem render_json_injective {report other : Report} {coloured colouredOther : Bool}
    (same : report.render .json coloured = other.render .json colouredOther) : report = other := by
  rw [render_json, render_json, String.append_left_inj] at same
  have decoded := report.ofText?_indented_append "" .nil
  rw [same, other.ofText?_indented_append "" .nil, Option.some.injEq, Document.mk.injEq] at decoded
  obtain ⟨-, -, -, results⟩ := decoded
  cases report
  cases other
  rw [mk.injEq]
  exact results.symm

/-- A report in JSON is one document and a line break. The document spells one value, and reading it
gives the verdict, the counts and all results; so what is written tells reports apart. -/
theorem ofText?_rendered :
    (∀ (report : Report) (coloured : Bool), ∃ document : String,
      report.render .json coloured = document ++ "\n" ∧
      (∀ sink : Terminal.Sink, (report.renderInto sink .json coloured).fault = none →
        (report.renderInto sink .json coloured).bytes = Text.Utf8.encode (document ++ "\n")) ∧
      (∀ value, Json.Spelling value document.toList ↔ value = report.toJson) ∧
      Document.ofText? document =
        some ⟨report.allPassed, report.passedCount, report.total, report.results⟩ ∧
      Document.ofText? (document ++ "\n") = Document.ofText? document) ∧
    ∀ (report other : Report) (coloured colouredOther : Bool) (sink sinkOther : Terminal.Sink),
      (report.renderInto sink .json coloured).fault = none →
      (other.renderInto sinkOther .json colouredOther).fault = none →
      (report.renderInto sink .json coloured).bytes =
        (other.renderInto sinkOther .json colouredOther).bytes →
      report = other := by
  refine ⟨fun report coloured => ?_, ?_⟩
  · have spelled := Json.spelling_indented report.toJson
    have bare := report.ofText?_indented_append "" .nil
    have broken := report.ofText?_indented_append "\n" (.singleton (.inr (.inl rfl)))
    rw [String.append_empty] at bare
    refine ⟨report.toJson.indented, render_json report coloured, ?_, ?_, bare,
      broken.trans bare.symm⟩
    · intro sink written
      rw [bytes_renderInto written, render_json]
    · intro value
      constructor
      · exact fun other => other.unique spelled
      · rintro rfl
        exact spelled
  · intro report other coloured colouredOther sink sinkOther written writtenOther same
    rw [bytes_renderInto written, bytes_renderInto writtenOther] at same
    exact render_json_injective (Text.Utf8.encode_injective same)

/-- Two findings with the same texts, which look like JSON themselves: the document of one report
can be read, and is not that of the other. -/
theorem ofText?_rendered_kinds :
    let finding := fun make : String → ReadErrorKind → String → Finding =>
      make "\"\x7d]\\" .decode "\x7f😀\n\x00"
    let report (found : Finding) : Report := ⟨[⟨"a", true, [found], some ⟨0, 2 ^ 64 - 1, 7⟩⟩]⟩
    let source := report (finding .fileRead)
    let manifest := report (finding .manifestRead)
    (∃ document, (source.renderInto .unlimited .json false).fault = none ∧
      (source.renderInto .unlimited .json false).bytes = Text.Utf8.encode (document ++ "\n") ∧
      Document.ofText? document = some ⟨true, 1, 1, source.results⟩) ∧
      (source.renderInto .unlimited .json false).bytes ≠
        (manifest.renderInto .unlimited .json false).bytes := by
  intro finding report source manifest
  obtain ⟨document, -, written, -, read, -⟩ := ofText?_rendered.1 source false
  refine ⟨⟨document, rfl, written .unlimited rfl, read⟩, fun same => ?_⟩
  have equal := ofText?_rendered.2 source manifest false false .unlimited .unlimited rfl rfl same
  exact absurd equal (by decide)

end Report

end Preflight
