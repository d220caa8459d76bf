import Preflight.Json.Reader
import Preflight.Json.Value
import Preflight.Layout.Validation
import Preflight.FileSystem.Disk

/-!
Layouts as JSON documents: printing one, reading one, and loading one from a file.

The names of the fields are those of the written form. A document must give the manifest and the
entries, and each entry its path; the rest has defaults. Loading validates what it has read, so a
document that cannot be read is never judged as a layout.
-/

namespace Preflight

namespace Entry

def toJson (entry : Entry) : Json.Value :=
  .object
    [("path", .text entry.path),
      ("scan_imports", .boolean entry.scanImports),
      ("count_lines", .boolean entry.countLines)]

/-- An entry of which some fields have been read. -/
structure Draft where
  path : Option String
  scanImports : Option Bool
  countLines : Option Bool

def record : Json.Record Draft Entry where
  title := "LayoutEntry"
  fields :=
    [{ name := "path"
       optional := false
       filled := fun draft => draft.path.isSome
       read := fun draft chars =>
         (Json.readText chars).map fun (path, rest) => ({ draft with path := some path }, rest) },
      { name := "scan_imports"
        optional := true
        filled := fun draft => draft.scanImports.isSome
        read := fun draft chars =>
          (Json.readBoolean chars).map fun (mark, rest) =>
            ({ draft with scanImports := some mark }, rest) },
      { name := "count_lines"
        optional := true
        filled := fun draft => draft.countLines.isSome
        read := fun draft chars =>
          (Json.readBoolean chars).map fun (mark, rest) =>
            ({ draft with countLines := some mark }, rest) }]
  blank := ⟨none, none, none⟩
  finish draft :=
    match draft.path with
    | none => .error (.missingField "path")
    | some path => .ok ⟨path, draft.scanImports.getD false, draft.countLines.getD false⟩

end Entry

namespace Layout

def toJson (layout : Layout) : Json.Value :=
  .object
    [("manifest", .text layout.manifest),
      ("required_dependencies", .array (layout.requiredDependencies.map .text)),
      ("exempt_prefixes", .array (layout.exemptPrefixes.map .text)),
      ("entries", .array (layout.entries.map Entry.toJson))]

/-- A layout of which some fields have been read. -/
structure Draft where
  manifest : Option String
  requiredDependencies : Option (List String)
  exemptPrefixes : Option (List String)
  entries : Option (List Entry)

def record : Json.Record Draft Layout where
  title := "ProjectLayout"
  fields :=
    [{ name := "manifest"
       optional := false
       filled := fun draft => draft.manifest.isSome
       read := fun draft chars =>
         (Json.readText chars).map fun (path, rest) =>
           ({ draft with manifest := some path }, rest) },
      { name := "required_dependencies"
        optional := true
        filled := fun draft => draft.requiredDependencies.isSome
        read := fun draft chars =>
          (Json.readList Json.readText chars).map fun (names, rest) =>
            ({ draft with requiredDependencies := some names }, rest) },
      { name := "exempt_prefixes"
        optional := true
        filled := fun draft => draft.exemptPrefixes.isSome
        read := fun draft chars =>
          (Json.readList Json.readText chars).map fun (starts, rest) =>
            ({ draft with exemptPrefixes := some starts }, rest) },
      { name := "entries"
        optional := false
        filled := fun draft => draft.entries.isSome
        read := fun draft chars =>
          (Json.readList Entry.record.read chars).map fun (entries, rest) =>
            ({ draft with entries := some entries }, rest) }]
  blank := ⟨none, none, none, none⟩
  finish draft :=
    match draft.manifest, draft.entries with
    | none, _ => .error (.missingField "manifest")
    | _, none => .error (.missingField "entries")
    | some manifest, some entries =>
        .ok
          { manifest
            requiredDependencies := draft.requiredDependencies.getD []
            exemptPrefixes := draft.exemptPrefixes.getD defaultExemptPrefixes
            entries }

/-- The layout that a document describes, sound or not. -/
def ofDocument (text : String) : Except Json.Error Layout :=
  Json.readDocument record.read text

/-- Why there is no layout to run with, or no directory to run in. -/
inductive LoadError where
  /-- The file at `path` cannot be read. -/
  | unreadable (path : String) (cause : AccessFault)
  /-- The file at `path` is not UTF-8. -/
  | undecodable (path : String)
  /-- The file at `path` is no layout document. -/
  | malformed (path : String) (cause : Json.Error)
  | invalid (violation : Violation)
  | noWorkingDirectory (cause : AccessFault)

def LoadError.message : LoadError → String
  | .unreadable path cause => "failed to read layout file " ++ path ++ ": " ++ cause.message
  | .undecodable path =>
      "failed to read layout file " ++ path ++ ": stream did not contain valid UTF-8"
  | .malformed path cause => "failed to parse layout file " ++ path ++ ": " ++ cause.message
  | .invalid violation => violation.message
  | .noWorkingDirectory cause => "could not determine the working directory: " ++ cause.message

def load (disk : Disk) (path : String) : Except LoadError Layout :=
  match disk.read path with
  | .error cause => .error (.unreadable path cause)
  | .ok bytes =>
      match Text.Utf8.decode bytes with
      | .error _ => .error (.undecodable path)
      | .ok text =>
          match ofDocument text with
          | .error cause => .error (.malformed path cause)
          | .ok layout =>
              match layout.validate with
              | .error violation => .error (.invalid violation)
              | .ok () => .ok layout

/-- A layout as indented JSON, without a final line break. -/
def print (layout : Layout) : String :=
  layout.toJson.indented

end Layout

end Preflight
