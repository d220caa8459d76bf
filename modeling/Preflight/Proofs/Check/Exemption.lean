import Preflight.Proofs.Check.Account

/-!
What exempt beginnings do to the findings of the check of imports.

A target is judged by itself: the list of exempt beginnings decides whether it is reported, and
nothing else about the scan. So more exempt beginnings take from the findings those targets that
have one of them, and leave all others as they are and where they are.
-/

namespace Preflight

/-- A project with other exempt beginnings. -/
def Project.exempting (project : Project) (exempt : List String) : Project :=
  { project with layout := { project.layout with exemptPrefixes := exempt } }

/-- Whether a target has one of some beginnings. The empty one begins every target. -/
def Import.IsExempt (exempt : List String) (target : String) : Prop :=
  ∃ start ∈ exempt, start.toList <+: target.toList

instance (exempt : List String) (target : String) : Decidable (Import.IsExempt exempt target) :=
  inferInstanceAs (Decidable (∃ start ∈ exempt, start.toList <+: target.toList))

namespace Finding

/-- Whether a finding is about an import whose target has one of some beginnings. -/
def IsExempt (exempt : List String) : Finding → Prop
  | malformedImport _ target => Import.IsExempt exempt target
  | _ => False

instance (exempt : List String) : (finding : Finding) → Decidable (finding.IsExempt exempt)
  | malformedImport _ target => inferInstanceAs (Decidable (Import.IsExempt exempt target))
  | missingFile _ | fileRead .. | manifestRead .. | missingDependency _ =>
      inferInstanceAs (Decidable False)

/-- Whether a finding notes that a source cannot be read. -/
def isFileRead : Finding → Bool
  | fileRead .. => true
  | _ => false

/-- What can be exempt is no note on a source. -/
theorem not_isExempt_of_isFileRead {exempt : List String} {finding : Finding}
    (noted : finding.isFileRead = true) : ¬finding.IsExempt exempt := by
  cases finding with
  | fileRead path kind message => exact id
  | _ => cases noted

end Finding

namespace Import

/-- With more exempt beginnings those targets are sound that were, and those that have one of the
beginnings. -/
theorem isSound_iff_of_subset {exempt more : List String} (within : exempt ⊆ more)
    {target : String} : IsSound more target ↔ IsSound exempt target ∨ IsExempt more target := by
  unfold IsSound IsExempt
  constructor
  · rintro (relative | begins)
    · exact .inl (.inl relative)
    · exact .inr begins
  · rintro ((relative | ⟨start, listed, begins⟩) | begins)
    · exact .inl relative
    · exact .inr ⟨start, within listed, begins⟩
    · exact .inr begins

theorem offences_of_subset {exempt more : List String} (within : exempt ⊆ more)
    (file text : String) :
    offences more file text =
      (offences exempt file text).filter fun finding => ¬finding.IsExempt more := by
  unfold offences
  rw [List.filter_map, List.filter_filter]
  refine congrArg _ (List.filter_congr fun target _ => ?_)
  have kept : ¬IsSound more target ↔
      ¬(Finding.malformedImport file target).IsExempt more ∧ ¬IsSound exempt target := by
    rw [isSound_iff_of_subset within, not_or, and_comm]
    exact Iff.rfl
  simp only [kept, Bool.decide_and]
  rfl

end Import

namespace Check

theorem importFindings_of_subset {exempt more : List String} (within : exempt ⊆ more)
    (file : String) (source : Source) :
    importFindings more file source =
      (importFindings exempt file source).filter fun finding => ¬finding.IsExempt more := by
  cases source with
  | absent => rfl
  | unreadable error => rfl
  | readable text =>
    rw [importFindings_readable, importFindings_readable, Import.offences_of_subset within]

theorem findings_checkImports_of_subset {exempt more : List String} (within : exempt ⊆ more)
    (project : Project) (disk : Disk) :
    (checkImports (project.exempting more) disk).findings =
      (checkImports (project.exempting exempt) disk).findings.filter
        fun finding => ¬finding.IsExempt more := by
  change (project.layout.importSources.flatMap fun path =>
      importFindings more path (project.source disk path)) =
    (project.layout.importSources.flatMap fun path =>
      importFindings exempt path (project.source disk path)).filter _
  rw [List.filter_flatMap]
  exact congrArg (List.flatMap · _) (funext fun path => importFindings_of_subset within path _)

/-- Nothing is found in a source that is missing, or holds a text with sound targets only. -/
theorem importFindings_source_eq_nil_iff {project : Project} {disk : Disk} {path : String}
    (exempt : List String) :
    importFindings exempt path (project.source disk path) = [] ↔
      ¬project.CannotRead disk path ∧ ∀ text, disk.Holds (project.resolve path) text →
        ∀ target ∈ Import.targets text, Import.IsSound exempt target := by
  by_cases there : disk.has (project.resolve path) = true
  · rw [importFindings_eq_nil_iff exempt there]
    constructor
    · rintro ⟨text, held, sound⟩
      refine ⟨fun unreadable => unreadable.2 text held, fun other also => ?_⟩
      obtain rfl := held.unique also
      exact sound
    · rintro ⟨readable, sound⟩
      by_contra none
      exact readable ⟨there, fun text held => none ⟨text, held, sound text held⟩⟩
  · rw [Project.source, if_neg there]
    refine iff_of_true rfl ⟨fun unreadable => ?_, fun text held => absurd held.has there⟩
    exact there unreadable.1

theorem passed_checkImports_iff (project : Project) (disk : Disk) :
    (checkImports project disk).passed = true ↔
      ∀ entry ∈ project.layout.scannedEntries, ¬project.CannotRead disk entry.path ∧
        ∀ text, disk.Holds (project.resolve entry.path) text →
          ∀ target ∈ Import.targets text,
            Import.IsSound project.layout.exemptPrefixes target := by
  rw [checkImports, passed_ofFindings, List.flatMap_eq_nil_iff, Layout.importSources,
    List.forall_mem_map]
  simp only [importFindings_source_eq_nil_iff]
  exact Iff.rfl

/-- With more exempt beginnings the check of imports finds what it did, in the same order, less the
imports whose target has one of the beginnings; notes on sources stay. With any exempt beginnings
its findings are one part for each scanned entry, in the order of the entries: nothing for one that
is missing, one note for one that cannot be read, and for one that can the targets in its text that
are neither relative nor have one of the beginnings. It passes when there is no such target and no
source that is there and cannot be read. -/
theorem checkImports_exempting (project : Project) (disk : Disk) :
    (∀ exempt more : List String, exempt ⊆ more →
      (checkImports (project.exempting more) disk).findings =
          (checkImports (project.exempting exempt) disk).findings.filter
            (fun finding => ¬finding.IsExempt more) ∧
        (checkImports (project.exempting more) disk).findings.filter (·.isFileRead) =
          (checkImports (project.exempting exempt) disk).findings.filter (·.isFileRead)) ∧
    ∀ exempt : List String,
      (∃ parts, List.Forall₂ (project.Treats disk (Import.offences exempt))
          project.layout.scannedEntries parts ∧
        (checkImports (project.exempting exempt) disk).findings = parts.flatten) ∧
      ((checkImports (project.exempting exempt) disk).passed = true ↔
        ∀ entry ∈ project.layout.scannedEntries, ¬project.CannotRead disk entry.path ∧
          ∀ text, disk.Holds (project.resolve entry.path) text →
            ∀ target ∈ Import.targets text, Import.IsSound exempt target) := by
  refine ⟨fun exempt more within => ?_, fun exempt => ⟨?_, ?_⟩⟩
  · have fewer := findings_checkImports_of_subset within project disk
    refine ⟨fewer, ?_⟩
    rw [fewer, List.filter_filter]
    refine List.filter_congr fun finding _ => ?_
    cases noted : finding.isFileRead with
    | false => rfl
    | true => simpa using Finding.not_isExempt_of_isFileRead noted
  · refine ⟨_, Project.forall₂_parts (project.treats_importFindings disk exempt) _, ?_⟩
    rw [checkImports, CheckResult.ofFindings, Layout.importSources, List.flatMap_map]
    rfl
  · exact passed_checkImports_iff (project.exempting exempt) disk

/-- A source listed twice, one that cannot be opened, a directory, one that is missing and one that
is not scanned, with a beginning more and one given twice. -/
theorem checkImports_exempting_twice :
    let project : Project := ⟨"p", ⟨"m", [], [], [⟨"a", true, false⟩, ⟨"b", true, true⟩,
      ⟨"c", true, true⟩, ⟨"d", true, false⟩, ⟨"b", false, true⟩, ⟨"a", true, false⟩]⟩⟩
    let disk : Disk := .ofLook fun path =>
      if path = "p/a" then
        .ok (.file (Text.Utf8.encode "import 'x/y'; import 'dart:io'; import './x'; import 'y'"))
      else if path = "p/b" then .ok (.locked .permissionDenied)
      else if path = "p/d" then .ok .directory
      else .error .notFound
    let unopened : Finding :=
      .fileRead "b" .io "failed to read p/b: Permission denied (os error 13)"
    let unread : Finding := .fileRead "d" .io "failed to read p/d: Is a directory (os error 21)"
    let exempt := ["dart:"]
    let more := ["x/", "dart:", "x/"]
    exempt ⊆ more ∧
      (checkImports (project.exempting exempt) disk).findings =
        [.malformedImport "a" "x/y", .malformedImport "a" "y", unopened, unread,
          .malformedImport "a" "x/y", .malformedImport "a" "y"] ∧
      (checkImports (project.exempting more) disk).findings =
        [.malformedImport "a" "y", unopened, unread, .malformedImport "a" "y"] := by
  intro project disk unopened unread exempt more
  have within : exempt ⊆ more := by decide
  have found : (checkImports (project.exempting exempt) disk).findings =
      [.malformedImport "a" "x/y", .malformedImport "a" "y", unopened, unread,
        .malformedImport "a" "x/y", .malformedImport "a" "y"] := by
    decide +kernel
  refine ⟨within, found, ?_⟩
  rw [((checkImports_exempting project disk).1 exempt more within).1, found]
  decide

end Check

end Preflight
