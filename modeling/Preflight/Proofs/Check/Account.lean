import Mathlib.Data.List.Forall2
import Preflight.FileSystem.Basic
import Preflight.Proofs.Check.Conforming

/-!
Every marked entry is accounted for once, and the checks of a run agree with each other.

A path of the layout leads nowhere, leads to something that is no text, or leads to a text. The
checks that go through sources tell these three cases apart by themselves, one source at a time. So
the findings of such a check fall into one part for each occurrence of an entry with its mark, and
each part is the one that the case of its path calls for.
-/

namespace Preflight

namespace Project

/-! ## The three cases -/

section Cases

variable (project : Project) (disk : Disk) (path : String)

/-- Whether a path of the layout leads nowhere. -/
def Misses : Prop := disk.has (project.resolve path) = false

/-- Whether a path of the layout leads to a file that holds a text. -/
def CanRead : Prop := ∃ text, disk.Holds (project.resolve path) text

/-- Whether a path of the layout leads somewhere, but to no text. -/
def CannotRead : Prop :=
  disk.has (project.resolve path) = true ∧ ∀ text, ¬disk.Holds (project.resolve path) text

end Cases

variable {project : Project} {disk : Disk} {path : String}

theorem canRead_iff :
    project.CanRead disk path ↔ (readText disk (project.resolve path)).toBool = true := by
  rw [CanRead]
  simp only [← readText_eq_ok_iff]
  cases readText disk (project.resolve path) <;> simp [Except.toBool]

instance (project : Project) (disk : Disk) (path : String) :
    Decidable (project.Misses disk path) :=
  inferInstanceAs (Decidable (disk.has (project.resolve path) = false))

instance (project : Project) (disk : Disk) (path : String) :
    Decidable (project.CanRead disk path) :=
  decidable_of_iff _ canRead_iff.symm

/-- What can be read is there. -/
theorem CanRead.not_misses (readable : project.CanRead disk path) :
    ¬project.Misses disk path := by
  obtain ⟨text, held⟩ := readable
  intro missing
  rw [Misses, held.has] at missing
  cases missing

theorem CannotRead.not_misses (unreadable : project.CannotRead disk path) :
    ¬project.Misses disk path := by
  intro missing
  rw [Misses, unreadable.1] at missing
  cases missing

theorem CannotRead.not_canRead (unreadable : project.CannotRead disk path) :
    ¬project.CanRead disk path := by
  rintro ⟨text, held⟩
  exact unreadable.2 text held

/-- A check finds a source as the case of its path says, and there is no fourth case. -/
theorem source_cases (project : Project) (disk : Disk) (path : String) :
    project.source disk path = .absent ∧ project.Misses disk path ∨
      (∃ error, project.source disk path = .unreadable error ∧
        readText disk (project.resolve path) = .error error ∧ project.CannotRead disk path) ∨
      ∃ text, project.source disk path = .readable text ∧
        disk.Holds (project.resolve path) text := by
  by_cases there : disk.has (project.resolve path) = true
  · cases read : readText disk (project.resolve path) with
    | error error =>
      have unread : project.source disk path = .unreadable error := by
        rw [source, if_pos there, read]
      have noText : ∀ text, ¬disk.Holds (project.resolve path) text := by
        intro text held
        rw [← readText_eq_ok_iff, read] at held
        cases held
      exact .inr (.inl ⟨error, unread, rfl, there, noText⟩)
    | ok text =>
      have readable : project.source disk path = .readable text := by
        rw [source, if_pos there, read]
      exact .inr (.inr ⟨text, readable, readText_eq_ok_iff.1 read⟩)
  · have absent : project.source disk path = .absent := by
      rw [source, if_neg there]
    exact .inl ⟨absent, Bool.eq_false_iff.2 there⟩

/-- Exactly one of the three cases applies to a path. -/
theorem one_case (project : Project) (disk : Disk) (path : String) :
    project.Misses disk path ∧ ¬project.CannotRead disk path ∧ ¬project.CanRead disk path ∨
      project.CannotRead disk path ∧ ¬project.Misses disk path ∧ ¬project.CanRead disk path ∨
      project.CanRead disk path ∧ ¬project.Misses disk path ∧ ¬project.CannotRead disk path := by
  rcases project.source_cases disk path with
    ⟨-, missing⟩ | ⟨error, -, -, unreadable⟩ | ⟨text, -, held⟩
  · refine .inl ⟨missing, ?_, ?_⟩
    · exact fun unreadable => unreadable.not_misses missing
    · exact fun readable => readable.not_misses missing
  · exact .inr (.inl ⟨unreadable, unreadable.not_misses, unreadable.not_canRead⟩)
  · have readable : project.CanRead disk path := ⟨text, held⟩
    exact .inr (.inr ⟨readable, readable.not_misses, fun unreadable =>
      unreadable.not_canRead readable⟩)

end Project

/-! ## How a check treats its sources -/

/-- The entries whose imports are scanned, each as often as it is listed. -/
def Layout.scannedEntries (layout : Layout) : List Entry :=
  layout.entries.filter (·.scanImports)

/-- The entries whose lines are counted, each as often as it is listed. -/
def Layout.countedEntries (layout : Layout) : List Entry :=
  layout.entries.filter (·.countLines)

instance (exempt : List String) (target : String) : Decidable (Import.IsSound exempt target) :=
  decidable_of_iff _ Check.isWellFormed_iff

/-- What is to be said of the imports in the text of a file: each target that is not sound. -/
def Import.offences (exempt : List String) (file text : String) : List Finding :=
  ((targets text).filter fun target => ¬IsSound exempt target).map (.malformedImport file)

theorem Check.importFindings_readable (exempt : List String) (file text : String) :
    importFindings exempt file (.readable text) = Import.offences exempt file text := by
  rw [importFindings, Import.offences]
  simp only [← isWellFormed_iff, Bool.not_eq_true, Bool.decide_eq_false]

namespace Project

section Treats

variable (project : Project) (disk : Disk)

/-- Whether a finding notes that the source at a path cannot be read, and why. -/
def IsNote (path : String) (finding : Finding) : Prop :=
  ∃ error, readText disk (project.resolve path) = .error error ∧
    finding = .fileRead path error.kind error.message

/-- What a check finds for one occurrence of an entry, when `reports` says what it finds in a text:
nothing at all, one note, or what there is to be said of the text. -/
inductive Treats (reports : String → String → List Finding) : Entry → List Finding → Prop
  | missing {entry : Entry} : project.Misses disk entry.path → Treats reports entry []
  | unreadable {entry : Entry} {note : Finding} :
    project.CannotRead disk entry.path → project.IsNote disk entry.path note →
    Treats reports entry [note]
  | readable {entry : Entry} {text : String} :
    disk.Holds (project.resolve entry.path) text →
    Treats reports entry (reports entry.path text)

end Treats

variable {project : Project} {disk : Disk}

/-- The check of imports treats an entry as one to be scanned, whatever beginnings are exempt. -/
theorem treats_importFindings (project : Project) (disk : Disk) (exempt : List String)
    (entry : Entry) :
    project.Treats disk (Import.offences exempt) entry
      (Check.importFindings exempt entry.path (project.source disk entry.path)) := by
  rcases project.source_cases disk entry.path with
    ⟨absent, missing⟩ | ⟨error, unread, failed, unreadable⟩ | ⟨text, readable, held⟩
  · rw [absent]
    exact .missing missing
  · rw [unread]
    exact .unreadable unreadable ⟨error, failed, rfl⟩
  · rw [readable, Check.importFindings_readable]
    exact .readable held

/-- The statistics treat an entry as one of whose text there is nothing to be said. -/
theorem treats_statisticsFindings (project : Project) (disk : Disk) (entry : Entry) :
    project.Treats disk (fun _ _ => []) entry
      (Check.statisticsFindings entry.path (project.source disk entry.path)) := by
  rcases project.source_cases disk entry.path with
    ⟨absent, missing⟩ | ⟨error, unread, failed, unreadable⟩ | ⟨text, readable, held⟩
  · rw [absent]
    exact .missing missing
  · rw [unread]
    exact .unreadable unreadable ⟨error, failed, rfl⟩
  · rw [readable]
    have counted : project.Treats disk (fun _ _ => []) entry ((fun _ _ => []) entry.path text) :=
      .readable held
    exact counted

/-- Findings made entry by entry fall into parts. -/
theorem forall₂_parts {relation : Entry → List Finding → Prop} {part : Entry → List Finding}
    (each : ∀ entry, relation entry (part entry)) (entries : List Entry) :
    List.Forall₂ relation entries (entries.map part) := by
  rw [List.forall₂_map_right_iff, List.forall₂_same]
  exact fun entry _ => each entry

/-! ## What is counted -/

/-- The texts of the sources that can be read are the ones whose lines are counted. -/
theorem exists_texts (project : Project) (disk : Disk) (entries : List Entry) :
    ∃ texts, List.Forall₂ (fun entry text => disk.Holds (project.resolve entry.path) text)
        (entries.filter fun entry => project.CanRead disk entry.path) texts ∧
      (entries.filterMap fun entry => Check.lineCount? (project.source disk entry.path)) =
        texts.map Check.countLines := by
  induction entries with
  | nil => exact ⟨[], .nil, rfl⟩
  | cons entry entries ih =>
    obtain ⟨texts, held, counts⟩ := ih
    rcases project.source_cases disk entry.path with
      ⟨absent, missing⟩ | ⟨error, unread, -, unreadable⟩ | ⟨text, readable, holds⟩
    · have unread : ¬project.CanRead disk entry.path := fun readable =>
        readable.not_misses missing
      refine ⟨texts, ?_, ?_⟩
      · rwa [List.filter_cons_of_neg (by simpa using unread)]
      · rw [List.filterMap_cons_none (by rw [absent]; rfl), counts]
    · refine ⟨texts, ?_, ?_⟩
      · rwa [List.filter_cons_of_neg (by simpa using unreadable.not_canRead)]
      · rw [List.filterMap_cons_none (by rw [unread]; rfl), counts]
    · have canRead : project.CanRead disk entry.path := ⟨text, holds⟩
      refine ⟨text :: texts, ?_, ?_⟩
      · rw [List.filter_cons_of_pos (by simpa using canRead)]
        exact .cons holds held
      · rw [List.filterMap_cons_some (by rw [readable]; rfl), counts]
        rfl

/-- Every entry is missing, noted or read. -/
theorem length_of_treats {entries : List Entry} {parts : List (List Finding)}
    (treated : List.Forall₂ (project.Treats disk fun _ _ => []) entries parts) :
    (entries.filter fun entry => project.CanRead disk entry.path).length + parts.flatten.length +
        (entries.filter fun entry => project.Misses disk entry.path).length =
      entries.length := by
  induction treated with
  | nil => rfl
  | @cons entry part entries parts this others ih =>
    rw [List.flatten_cons, List.length_append, List.length_cons, List.filter_cons, List.filter_cons]
    cases this with
    | missing missing =>
      have unread : ¬project.CanRead disk entry.path := fun readable =>
        readable.not_misses missing
      simp only [missing, unread, decide_true, decide_false, if_true, Bool.false_eq_true, if_false,
        List.length_cons, List.length_nil]
      omega
    | unreadable unreadable =>
      simp only [unreadable.not_canRead, unreadable.not_misses, decide_false, Bool.false_eq_true,
        if_false, List.length_cons, List.length_nil]
      omega
    | readable held =>
      have readable : project.CanRead disk entry.path := ⟨_, held⟩
      simp only [readable, readable.not_misses, decide_true, decide_false, if_true,
        Bool.false_eq_true, if_false, List.length_cons, List.length_nil]
      omega

/-! ## What a part can hold -/

/-- A finding of a part names the path of its entry, and that path leads somewhere. -/
theorem Treats.of_mem {reports : String → String → List Finding} {entry : Entry}
    {part : List Finding} (treated : project.Treats disk reports entry part)
    {finding : Finding} (found : finding ∈ part) :
    ¬project.Misses disk entry.path ∧
      (project.CannotRead disk entry.path ∧ project.IsNote disk entry.path finding ∨
        ∃ text, disk.Holds (project.resolve entry.path) text ∧
          finding ∈ reports entry.path text) := by
  cases treated with
  | missing missing => cases found
  | unreadable unreadable note =>
    rw [List.mem_singleton] at found
    subst found
    exact ⟨unreadable.not_misses, .inl ⟨unreadable, note⟩⟩
  | readable held =>
    have readable : project.CanRead disk entry.path := ⟨_, held⟩
    exact ⟨readable.not_misses, .inr ⟨_, held, found⟩⟩

/-- A finding of all parts is one of some part. -/
theorem exists_treats_of_mem {reports : String → String → List Finding} {entries : List Entry}
    {parts : List (List Finding)}
    (treated : List.Forall₂ (project.Treats disk reports) entries parts)
    {finding : Finding} (found : finding ∈ parts.flatten) :
    ∃ entry ∈ entries, ∃ part, project.Treats disk reports entry part ∧ finding ∈ part := by
  induction treated with
  | nil => cases found
  | @cons entry part entries parts this others ih =>
    rw [List.flatten_cons, List.mem_append] at found
    rcases found with found | found
    · exact ⟨entry, List.mem_cons_self, part, this, found⟩
    · obtain ⟨other, listed, rest⟩ := ih found
      exact ⟨other, List.mem_cons_of_mem _ listed, rest⟩

/-- An entry that cannot be read has its note among the parts. -/
theorem mem_flatten_of_isNote {reports : String → String → List Finding} {entries : List Entry}
    {parts : List (List Finding)}
    (treated : List.Forall₂ (project.Treats disk reports) entries parts)
    {entry : Entry} (listed : entry ∈ entries) (unreadable : project.CannotRead disk entry.path)
    {note : Finding} (isNote : project.IsNote disk entry.path note) : note ∈ parts.flatten := by
  induction treated with
  | nil => cases listed
  | cons this others ih =>
    rw [List.flatten_cons, List.mem_append]
    rcases List.mem_cons.1 listed with rfl | listed
    · refine .inl ?_
      cases this with
      | missing missing => exact absurd missing unreadable.not_misses
      | unreadable _ other =>
        obtain ⟨error, failed, rfl⟩ := isNote
        obtain ⟨same, failedAgain, rfl⟩ := other
        rw [failed] at failedAgain
        cases failedAgain
        exact List.mem_cons_self
      | readable held => exact absurd held (unreadable.2 _)
    · exact .inr (ih listed)

end Project

/-! ## The report of a run -/

/-- The path of the layout that a finding is about, if it is about one. -/
def Finding.path? : Finding → Option String
  | missingFile path => some path
  | malformedImport file _ => some file
  | fileRead path _ _ => some path
  | manifestRead path _ _ => some path
  | missingDependency _ => none

namespace Report

/-- The findings that a report has of a check. -/
def findingsOf (report : Report) (check : Check) : List Finding :=
  (report.results.filter (·.name == check.title)).flatMap (·.findings)

/-- The statistics in a report. -/
def metrics? (report : Report) : Option Metrics :=
  report.results.findSome? (·.metrics)

end Report

namespace Project

variable {project : Project} {disk : Disk}

theorem findingsOf_run (project : Project) (disk : Disk) (check : Check) :
    (project.run disk).findingsOf check = (check.result project disk).findings := by
  cases check <;> exact List.append_nil _

theorem metrics?_run (project : Project) (disk : Disk) :
    (project.run disk).metrics? = (Check.checkStatistics project disk).metrics := rfl

/-- What an account of a project says of the report of a run. -/
structure Accounts (project : Project) (disk : Disk) (report : Report) : Prop where
  /-- Exactly one of the three cases applies to a path. -/
  oneCase (path : String) :
    project.Misses disk path ∧ ¬project.CannotRead disk path ∧ ¬project.CanRead disk path ∨
      project.CannotRead disk path ∧ ¬project.Misses disk path ∧ ¬project.CanRead disk path ∨
      project.CanRead disk path ∧ ¬project.Misses disk path ∧ ¬project.CannotRead disk path
  /-- The check of presence reports every occurrence of an entry that is missing. -/
  missing : report.findingsOf .presence =
    (project.layout.entries.filter fun entry => project.Misses disk entry.path).map
      fun entry => .missingFile entry.path
  /-- The statistics note every counted entry that is there and cannot be read, and no other. -/
  counted : ∃ parts,
    List.Forall₂ (project.Treats disk fun _ _ => []) project.layout.countedEntries parts ∧
      report.findingsOf .statistics = parts.flatten
  /-- They count every counted entry that can be read, and no other. -/
  texts : ∃ texts,
    List.Forall₂ (fun entry text => disk.Holds (project.resolve entry.path) text)
        (project.layout.countedEntries.filter fun entry => project.CanRead disk entry.path)
        texts ∧
      report.metrics? = some (Check.summarize (texts.map Check.countLines))
  /-- So counted entries are files, notes or missing. -/
  total : ∃ metrics, report.metrics? = some metrics ∧
    metrics.totalFiles + (report.findingsOf .statistics).length +
        (project.layout.countedEntries.filter fun entry => project.Misses disk entry.path).length =
      project.layout.countedEntries.length
  /-- When nothing is reported as missing, counted entries are files or notes. -/
  present : report.findingsOf .presence = [] → ∃ metrics, report.metrics? = some metrics ∧
    metrics.totalFiles + (report.findingsOf .statistics).length =
      project.layout.countedEntries.length
  /-- The check of imports notes every scanned entry that is there and cannot be read, and scans
  every one that can. -/
  scanned : ∃ parts,
    List.Forall₂ (project.Treats disk (Import.offences project.layout.exemptPrefixes))
        project.layout.scannedEntries parts ∧
      report.findingsOf .imports = parts.flatten
  /-- What one of these checks has found something in is not missing. -/
  apart : ∀ finding ∈ report.findingsOf .imports ++ report.findingsOf .statistics,
    ∃ path, finding.path? = some path ∧ .missingFile path ∉ report.findingsOf .presence
  /-- An entry with both marks is noted by both checks alike. -/
  alike : ∀ entry ∈ project.layout.entries, entry.scanImports = true → entry.countLines = true →
    ∀ kind message, .fileRead entry.path kind message ∈ report.findingsOf .imports ↔
      .fileRead entry.path kind message ∈ report.findingsOf .statistics
  /-- The manifest is noted by itself, or it can be read and only names are missing from it. -/
  manifest :
    (∃ error, readText disk (project.resolve project.layout.manifest) = .error error ∧
        report.findingsOf .dependencies =
          [.manifestRead project.layout.manifest error.kind error.message]) ∨
      project.CanRead disk project.layout.manifest ∧
        ∀ finding ∈ report.findingsOf .dependencies,
          ∃ name ∈ project.layout.requiredDependencies, finding = .missingDependency name
  /-- A manifest that is reported as missing is noted as well. -/
  manifestMissing : .missingFile project.layout.manifest ∈ report.findingsOf .presence →
    ∃ kind message, report.findingsOf .dependencies =
      [.manifestRead project.layout.manifest kind message]
  /-- When every check passes, nothing is missing and everything that had to be read was. -/
  passed : report.allPassed = true →
    (∀ entry ∈ project.layout.entries, ¬project.Misses disk entry.path) ∧
      (∀ entry ∈ project.layout.scannedEntries, project.CanRead disk entry.path) ∧
      project.CanRead disk project.layout.manifest

/-! ### Presence -/

theorem findings_checkPresence (project : Project) (disk : Disk) :
    (Check.checkPresence project disk).findings =
      (project.layout.entries.filter fun entry => project.Misses disk entry.path).map
        fun entry => .missingFile entry.path := by
  rw [Check.checkPresence, CheckResult.ofFindings, Check.missingPaths, Layout.paths,
    List.filter_map, List.map_map]
  have same : (fun path => !disk.has (project.resolve path)) ∘ (fun entry : Entry => entry.path) =
      fun entry => decide (project.Misses disk entry.path) := by
    funext entry
    exact Bool.decide_eq_false.symm
  rw [same]
  rfl

theorem missingFile_mem_iff {path : String} :
    .missingFile path ∈ (Check.checkPresence project disk).findings ↔
      (∃ entry ∈ project.layout.entries, entry.path = path) ∧ project.Misses disk path := by
  rw [findings_checkPresence]
  simp only [List.mem_map, List.mem_filter, decide_eq_true_eq, Finding.missingFile.injEq]
  constructor
  · rintro ⟨entry, ⟨listed, missing⟩, rfl⟩
    exact ⟨⟨entry, listed, rfl⟩, missing⟩
  · rintro ⟨⟨entry, listed, rfl⟩, missing⟩
    exact ⟨entry, ⟨listed, missing⟩, rfl⟩

/-! ### Imports and statistics -/

theorem exists_parts_checkImports (project : Project) (disk : Disk) :
    ∃ parts, List.Forall₂ (project.Treats disk (Import.offences project.layout.exemptPrefixes))
        project.layout.scannedEntries parts ∧
      (Check.checkImports project disk).findings = parts.flatten := by
  refine ⟨_, forall₂_parts (treats_importFindings project disk _) _, ?_⟩
  rw [Check.checkImports, CheckResult.ofFindings, Layout.importSources, List.flatMap_map]
  rfl

theorem exists_parts_checkStatistics (project : Project) (disk : Disk) :
    ∃ parts, List.Forall₂ (project.Treats disk fun _ _ => []) project.layout.countedEntries parts ∧
      (Check.checkStatistics project disk).findings = parts.flatten := by
  refine ⟨_, forall₂_parts (treats_statisticsFindings project disk) _, ?_⟩
  rw [Check.checkStatistics, Layout.countedSources, List.flatMap_map]
  rfl

theorem exists_texts_checkStatistics (project : Project) (disk : Disk) :
    ∃ texts, List.Forall₂ (fun entry text => disk.Holds (project.resolve entry.path) text)
        (project.layout.countedEntries.filter fun entry => project.CanRead disk entry.path)
        texts ∧
      (Check.checkStatistics project disk).metrics =
        some (Check.summarize (texts.map Check.countLines)) := by
  obtain ⟨texts, held, counts⟩ := exists_texts project disk project.layout.countedEntries
  refine ⟨texts, held, ?_⟩
  rw [← counts, Check.checkStatistics, Layout.countedSources, List.filterMap_map]
  rfl

/-- A finding about a source is about a path that is not missing. -/
theorem not_misses_of_mem {reports : String → String → List Finding} {entries : List Entry}
    {parts : List (List Finding)}
    (treated : List.Forall₂ (project.Treats disk reports) entries parts)
    (named : ∀ file text, ∀ finding ∈ reports file text, finding.path? = some file)
    {finding : Finding} (found : finding ∈ parts.flatten) :
    ∃ path, finding.path? = some path ∧ ¬project.Misses disk path := by
  obtain ⟨entry, -, part, this, held⟩ := exists_treats_of_mem treated found
  obtain ⟨there, ⟨-, error, -, rfl⟩ | ⟨text, -, said⟩⟩ := this.of_mem held
  · exact ⟨entry.path, rfl, there⟩
  · exact ⟨entry.path, named entry.path text finding said, there⟩

/-- A source is noted when an entry with the mark cannot be read. -/
theorem fileRead_mem_iff {reports : String → String → List Finding} {entries : List Entry}
    {parts : List (List Finding)}
    (treated : List.Forall₂ (project.Treats disk reports) entries parts)
    (silent : ∀ file text path kind message, .fileRead path kind message ∉ reports file text)
    {entry : Entry} (listed : entry ∈ entries) {kind : ReadErrorKind} {message : String} :
    .fileRead entry.path kind message ∈ parts.flatten ↔
      project.CannotRead disk entry.path ∧
        project.IsNote disk entry.path (.fileRead entry.path kind message) := by
  constructor
  · intro found
    obtain ⟨other, -, part, this, held⟩ := exists_treats_of_mem treated found
    obtain ⟨-, ⟨unreadable, note⟩ | ⟨text, -, said⟩⟩ := this.of_mem held
    · have same : entry.path = other.path := by
        obtain ⟨error, -, shape⟩ := note
        injection shape
      rw [same] at note ⊢
      exact ⟨unreadable, note⟩
    · exact absurd said (silent _ _ _ _ _)
  · rintro ⟨unreadable, note⟩
    exact mem_flatten_of_isNote treated listed unreadable note

theorem path?_of_mem_offences {exempt : List String} (file text : String) :
    ∀ finding ∈ Import.offences exempt file text, finding.path? = some file := by
  intro finding said
  obtain ⟨target, -, rfl⟩ := List.mem_map.1 said
  rfl

theorem fileRead_notMem_offences {exempt : List String} (file text path : String)
    (kind : ReadErrorKind) (message : String) :
    .fileRead path kind message ∉ Import.offences exempt file text := by
  intro said
  obtain ⟨target, -, shape⟩ := List.mem_map.1 said
  cases shape

/-! ### Dependencies -/

theorem findings_checkDependencies (project : Project) (disk : Disk) :
    (∃ error, readText disk (project.resolve project.layout.manifest) = .error error ∧
        (Check.checkDependencies project disk).findings =
          [.manifestRead project.layout.manifest error.kind error.message]) ∨
      project.CanRead disk project.layout.manifest ∧
        ∀ finding ∈ (Check.checkDependencies project disk).findings,
          ∃ name ∈ project.layout.requiredDependencies, finding = .missingDependency name := by
  rw [Check.checkDependencies, CheckResult.ofFindings]
  cases read : readText disk (project.resolve project.layout.manifest) with
  | error error => exact .inl ⟨error, rfl, rfl⟩
  | ok text =>
    refine .inr ⟨⟨text, readText_eq_ok_iff.1 read⟩, ?_⟩
    intro finding found
    obtain ⟨name, absent, rfl⟩ := List.mem_map.1 found
    exact ⟨name, (List.mem_filter.1 absent).1, rfl⟩

/-! ### File systems -/

theorem misses_disk_iff (project : Project) (fs : FileSystem) (here : Place) (path : String) :
    project.Misses (fs.disk here) path ↔
      ∃ fault, fs.locate here (project.resolve path) = .error fault := by
  change (fs.look here (project.resolve path)).isOk = false ↔ _
  rw [FileSystem.look]
  cases fs.locate here (project.resolve path) with
  | error fault => exact iff_of_true rfl ⟨fault, rfl⟩
  | ok place => exact iff_of_false (fun failed => by cases failed) nofun

theorem canRead_disk_iff (project : Project) (fs : FileSystem) (here : Place) (path : String) :
    project.CanRead (fs.disk here) path ↔
      ∃ place text, fs.locate here (project.resolve path) = .ok place ∧
        fs.node? place = some (.file (Text.Utf8.encode text)) := by
  change (∃ text, (fs.look here (project.resolve path)).bind Found.read = _) ↔ _
  rw [FileSystem.look]
  cases fs.locate here (project.resolve path) with
  | error fault => exact iff_of_false (fun ⟨_, held⟩ => by cases held) nofun
  | ok place =>
    constructor
    · rintro ⟨text, held⟩
      exact ⟨place, text, rfl, FileSystem.read_found_eq_ok_iff.1 held⟩
    · rintro ⟨other, text, same, stored⟩
      cases same
      exact ⟨text, FileSystem.read_found_eq_ok_iff.2 stored⟩

/-! ### The checks with each other -/

/-- Counted entries are files, notes or missing. -/
theorem total_checkStatistics (project : Project) (disk : Disk) :
    ∃ metrics, (Check.checkStatistics project disk).metrics = some metrics ∧
      metrics.totalFiles + (Check.checkStatistics project disk).findings.length +
          (project.layout.countedEntries.filter fun entry =>
            project.Misses disk entry.path).length =
        project.layout.countedEntries.length := by
  obtain ⟨notes, counted, statistics⟩ := exists_parts_checkStatistics project disk
  obtain ⟨texts, held, metrics⟩ := exists_texts_checkStatistics project disk
  have total := length_of_treats counted
  rw [held.length_eq] at total
  refine ⟨_, metrics, ?_⟩
  rw [statistics, Check.summarize, List.length_map]
  exact total

/-- When nothing is reported as missing, no counted entry is. -/
theorem filter_misses_eq_nil (nothing : (Check.checkPresence project disk).findings = []) :
    (project.layout.countedEntries.filter fun entry => project.Misses disk entry.path) = [] := by
  rw [findings_checkPresence, List.map_eq_nil_iff, List.filter_eq_nil_iff] at nothing
  rw [List.filter_eq_nil_iff]
  exact fun entry marked => nothing entry (List.mem_filter.1 marked).1

/-- What the check of imports and the statistics find is about paths that are not missing. -/
theorem not_misses_of_mem_findings {finding : Finding}
    (found : finding ∈ (Check.checkImports project disk).findings ++
      (Check.checkStatistics project disk).findings) :
    ∃ path, finding.path? = some path ∧ ¬project.Misses disk path := by
  obtain ⟨scans, scanned, imports⟩ := exists_parts_checkImports project disk
  obtain ⟨notes, counted, statistics⟩ := exists_parts_checkStatistics project disk
  rw [imports, statistics, List.mem_append] at found
  rcases found with found | found
  · exact not_misses_of_mem scanned path?_of_mem_offences found
  · exact not_misses_of_mem counted (fun _ _ _ said => absurd said List.not_mem_nil) found

/-- The check of imports and the statistics note the same of an entry with both marks. -/
theorem fileRead_mem_checkImports_iff {entry : Entry} (listed : entry ∈ project.layout.entries)
    (isScanned : entry.scanImports = true) (isCounted : entry.countLines = true)
    (kind : ReadErrorKind) (message : String) :
    .fileRead entry.path kind message ∈ (Check.checkImports project disk).findings ↔
      .fileRead entry.path kind message ∈ (Check.checkStatistics project disk).findings := by
  obtain ⟨scans, scanned, imports⟩ := exists_parts_checkImports project disk
  obtain ⟨notes, counted, statistics⟩ := exists_parts_checkStatistics project disk
  have inScanned : entry ∈ project.layout.scannedEntries :=
    List.mem_filter.2 ⟨listed, isScanned⟩
  have inCounted : entry ∈ project.layout.countedEntries :=
    List.mem_filter.2 ⟨listed, isCounted⟩
  rw [imports, statistics, fileRead_mem_iff scanned fileRead_notMem_offences inScanned,
    fileRead_mem_iff counted (fun _ _ _ _ _ => List.not_mem_nil) inCounted]

/-- A project that passes has everything that it is expected to have. -/
theorem canRead_of_conforms (conforms : project.Conforms disk) :
    (∀ entry ∈ project.layout.entries, ¬project.Misses disk entry.path) ∧
      (∀ entry ∈ project.layout.scannedEntries, project.CanRead disk entry.path) ∧
      project.CanRead disk project.layout.manifest := by
  obtain ⟨present, imports, text, held, -⟩ := conforms
  refine ⟨?_, ?_, ⟨text, held⟩⟩
  · intro entry listed missing
    rw [Misses, present entry listed] at missing
    cases missing
  · intro entry marked
    obtain ⟨listed, isScanned⟩ := List.mem_filter.1 marked
    obtain ⟨text, held, -⟩ := imports entry listed isScanned
    exact ⟨text, held⟩

/-! ### The account -/

theorem accounts (project : Project) (disk : Disk) :
    project.Accounts disk (project.run disk) where
  oneCase := project.one_case disk
  missing := by
    rw [findingsOf_run]
    exact findings_checkPresence project disk
  counted := by
    rw [findingsOf_run]
    exact exists_parts_checkStatistics project disk
  texts := by
    rw [metrics?_run]
    exact exists_texts_checkStatistics project disk
  total := by
    rw [findingsOf_run, metrics?_run]
    exact total_checkStatistics project disk
  present := by
    intro nothing
    rw [findingsOf_run] at nothing
    rw [findingsOf_run, metrics?_run]
    obtain ⟨metrics, shown, total⟩ := total_checkStatistics project disk
    rw [filter_misses_eq_nil nothing] at total
    exact ⟨metrics, shown, total⟩
  scanned := by
    rw [findingsOf_run]
    exact exists_parts_checkImports project disk
  apart := by
    intro finding found
    rw [findingsOf_run, findingsOf_run] at found
    obtain ⟨path, named, there⟩ := not_misses_of_mem_findings found
    refine ⟨path, named, ?_⟩
    rw [findingsOf_run, Check.result, missingFile_mem_iff]
    exact fun missing => there missing.2
  alike := by
    intro entry listed isScanned isCounted kind message
    rw [findingsOf_run, findingsOf_run]
    exact fileRead_mem_checkImports_iff listed isScanned isCounted kind message
  manifest := by
    rw [findingsOf_run]
    exact findings_checkDependencies project disk
  manifestMissing := by
    intro reported
    rw [findingsOf_run, Check.result, missingFile_mem_iff] at reported
    rw [findingsOf_run]
    rcases findings_checkDependencies project disk with ⟨error, -, noted⟩ | ⟨readable, -⟩
    · exact ⟨error.kind, error.message, noted⟩
    · exact absurd reported.2 readable.not_misses
  passed := fun allPassed => canRead_of_conforms (allPassed_run.1 allPassed)

/-- The report of a run accounts for every entry, on every disk and so in every file system, where a
path leads nowhere when it cannot be followed and can be read when it leads to a file in UTF-8. -/
theorem accounts_run :
    (∀ (project : Project) (disk : Disk), project.Accounts disk (project.run disk)) ∧
      ∀ (fs : FileSystem) (here : Place) (project : Project) (path : String),
        (project.Misses (fs.disk here) path ↔
          ∃ fault, fs.locate here (project.resolve path) = .error fault) ∧
        (project.CanRead (fs.disk here) path ↔
          ∃ place text, fs.locate here (project.resolve path) = .ok place ∧
            fs.node? place = some (.file (Text.Utf8.encode text))) :=
  ⟨fun project disk => project.accounts disk, fun fs here project path =>
    ⟨project.misses_disk_iff fs here path, project.canRead_disk_iff fs here path⟩⟩

end Project

end Preflight
