import Preflight.Check.Run
import Preflight.Proofs.Source

/-!
When a project conforms to its layout, and that the checks find out.

Conforming is said of what the files hold, without findings, counts or the order of the checks. Each
check passes when its part of that holds, and the statistics pass in any case. So the verdict of a
run is a function of what the other three checks look at.
-/

namespace Preflight

/-! ## Conforming -/

/-- Whether an import may have a target: a relative one, or one with an exempt beginning. -/
def Import.IsSound (exempt : List String) (target : String) : Prop :=
  ".".toList <+: target.toList ∨ ∃ start ∈ exempt, start.toList <+: target.toList

/-- Whether a project has what its layout asks for on a disk. -/
structure Project.Conforms (project : Project) (disk : Disk) : Prop where
  present : ∀ entry ∈ project.layout.entries, disk.has (project.resolve entry.path) = true
  imports : ∀ entry ∈ project.layout.entries, entry.scanImports = true →
    ∃ text, disk.Holds (project.resolve entry.path) text ∧
      ∀ target ∈ Import.targets text, Import.IsSound project.layout.exemptPrefixes target
  dependencies : ∃ text, disk.Holds (project.resolve project.layout.manifest) text ∧
    ∀ name ∈ project.layout.requiredDependencies, name.toList <:+: text.toList

/-! ## What each check finds -/

namespace Check

theorem passed_ofFindings {name : String} {findings : List Finding} :
    (CheckResult.ofFindings name findings).passed = true ↔ findings = [] :=
  List.isEmpty_iff

theorem isWellFormed_iff {exempt : List String} {target : String} :
    isWellFormed exempt target = true ↔ Import.IsSound exempt target := by
  rw [isWellFormed, Bool.or_eq_true, List.any_eq_true, Import.IsSound, or_comm]
  simp only [Text.beginsWith_iff]

theorem passed_checkPresence {project : Project} {disk : Disk} :
    (checkPresence project disk).passed = true ↔
      ∀ entry ∈ project.layout.entries, disk.has (project.resolve entry.path) = true := by
  rw [checkPresence, passed_ofFindings, List.map_eq_nil_iff, missingPaths, List.filter_eq_nil_iff]
  simp [Layout.paths]

/-- Nothing is found in a source that is there when it can be read and its targets are sound. -/
theorem importFindings_eq_nil_iff {project : Project} {disk : Disk} {path : String}
    (exempt : List String) (present : disk.has (project.resolve path) = true) :
    importFindings exempt path (project.source disk path) = [] ↔
      ∃ text, disk.Holds (project.resolve path) text ∧
        ∀ target ∈ Import.targets text, Import.IsSound exempt target := by
  simp only [← Project.source_eq_readable_iff]
  cases read : project.source disk path with
  | absent =>
    rw [Project.source, if_pos present] at read
    split at read <;> cases read
  | unreadable error => simp [importFindings]
  | readable text => simp [importFindings, ← isWellFormed_iff]

/-- The check of imports passes over what is missing, so it is decided for a project that has all
its files. -/
theorem passed_checkImports {project : Project} {disk : Disk}
    (present : ∀ entry ∈ project.layout.entries, disk.has (project.resolve entry.path) = true) :
    (checkImports project disk).passed = true ↔
      ∀ entry ∈ project.layout.entries, entry.scanImports = true →
        ∃ text, disk.Holds (project.resolve entry.path) text ∧
          ∀ target ∈ Import.targets text,
            Import.IsSound project.layout.exemptPrefixes target := by
  rw [checkImports, passed_ofFindings, List.flatMap_eq_nil_iff]
  constructor
  · intro passed entry listed scanned
    have source : entry.path ∈ project.layout.importSources :=
      List.mem_map_of_mem (List.mem_filter.2 ⟨listed, scanned⟩)
    exact (importFindings_eq_nil_iff _ (present entry listed)).1
      (passed entry.path source)
  · intro sound path source
    obtain ⟨entry, marked, rfl⟩ := List.mem_map.1 source
    obtain ⟨listed, scanned⟩ := List.mem_filter.1 marked
    exact (importFindings_eq_nil_iff _ (present entry listed)).2
      (sound entry listed scanned)

theorem passed_checkDependencies {project : Project} {disk : Disk} :
    (checkDependencies project disk).passed = true ↔
      ∃ text, disk.Holds (project.resolve project.layout.manifest) text ∧
        ∀ name ∈ project.layout.requiredDependencies, name.toList <:+: text.toList := by
  rw [checkDependencies, passed_ofFindings]
  simp only [← readText_eq_ok_iff]
  cases readText disk (project.resolve project.layout.manifest) with
  | error error => simp [dependencyFindings]
  | ok text => simp [dependencyFindings, missingDependencies, Text.contains_iff]

end Check

/-! ## The verdict -/

/-- As many checks pass as there are when each one passes. -/
theorem Report.allPassed_iff {report : Report} :
    report.allPassed = true ↔ ∀ result ∈ report.results, result.passed = true := by
  rw [allPassed, beq_iff_eq, passedCount, total, List.length_filter_eq_length_iff]

/-- A run passes when the project conforms. -/
theorem Project.allPassed_run {project : Project} {disk : Disk} :
    (project.run disk).allPassed = true ↔ project.Conforms disk := by
  have results : (project.run disk).results =
      [Check.checkPresence project disk, Check.checkImports project disk,
        Check.checkDependencies project disk, Check.checkStatistics project disk] := rfl
  have statistics : (Check.checkStatistics project disk).passed = true := rfl
  simp only [Report.allPassed_iff, results, List.forall_mem_cons, statistics,
    List.not_mem_nil, false_imp_iff, implies_true, and_true]
  constructor
  · rintro ⟨present, imports, dependencies⟩
    -- What the check of imports passes over is what the check of presence has found.
    have present := Check.passed_checkPresence.1 present
    exact ⟨present, (Check.passed_checkImports present).1 imports,
      Check.passed_checkDependencies.1 dependencies⟩
  · rintro ⟨present, imports, dependencies⟩
    exact ⟨Check.passed_checkPresence.2 present, (Check.passed_checkImports present).2 imports,
      Check.passed_checkDependencies.2 dependencies⟩

theorem Project.exitCode_run (project : Project) (disk : Disk) :
    (project.run disk).verdict.exitCode = 0 ∧ project.Conforms disk ∨
      (project.run disk).verdict.exitCode = 1 ∧ ¬project.Conforms disk := by
  rw [Report.verdict, ← allPassed_run]
  cases (project.run disk).allPassed with
  | true => exact .inl ⟨rfl, rfl⟩
  | false => exact .inr ⟨rfl, Bool.false_ne_true⟩

/-! ## What conforming does not depend on -/

/-- A project none of whose files are counted. -/
def Project.uncounted (project : Project) : Project :=
  { project with
    layout :=
      { project.layout with
        entries := project.layout.entries.map fun entry => { entry with countLines := false } } }

/-- Which files are counted has no part in conforming. -/
theorem Project.conforms_uncounted {project : Project} {disk : Disk} :
    project.uncounted.Conforms disk ↔ project.Conforms disk := by
  constructor
  · rintro ⟨present, imports, dependencies⟩
    have found {entry : Entry} (listed : entry ∈ project.layout.entries) :
        { entry with countLines := false } ∈ project.uncounted.layout.entries :=
      List.mem_map.2 ⟨entry, listed, rfl⟩
    refine ⟨fun entry listed => ?_, fun entry listed => ?_, dependencies⟩
    · have reached := present _ (found listed)
      exact reached
    · have sound := imports _ (found listed)
      exact sound
  · rintro ⟨present, imports, dependencies⟩
    refine ⟨fun entry unmarked => ?_, fun entry unmarked => ?_, dependencies⟩
    · obtain ⟨entry, listed, rfl⟩ := List.mem_map.1 unmarked
      exact present entry listed
    · obtain ⟨entry, listed, rfl⟩ := List.mem_map.1 unmarked
      exact imports entry listed

/-- Whether two disks look alike to the checks that can fail: the same entries exist, and the
sources whose imports are scanned and the manifest are read alike. -/
structure Project.LooksAlike (project : Project) (disk other : Disk) : Prop where
  present : ∀ entry ∈ project.layout.entries,
    disk.has (project.resolve entry.path) = other.has (project.resolve entry.path)
  scanned : ∀ entry ∈ project.layout.entries, entry.scanImports = true →
    disk.read (project.resolve entry.path) = other.read (project.resolve entry.path)
  manifest : disk.read (project.resolve project.layout.manifest) =
    other.read (project.resolve project.layout.manifest)

theorem Project.LooksAlike.symm {project : Project} {disk other : Disk}
    (alike : project.LooksAlike disk other) : project.LooksAlike other disk :=
  ⟨fun entry listed => (alike.present entry listed).symm,
    fun entry listed scanned => (alike.scanned entry listed scanned).symm, alike.manifest.symm⟩

theorem Project.Conforms.of_looksAlike {project : Project} {disk other : Disk}
    (conforms : project.Conforms disk) (alike : project.LooksAlike disk other) :
    project.Conforms other := by
  obtain ⟨present, imports, dependencies⟩ := conforms
  refine ⟨fun entry listed => ?_, fun entry listed scanned => ?_, ?_⟩
  · rw [← alike.present entry listed]
    exact present entry listed
  · obtain ⟨text, held, sound⟩ := imports entry listed scanned
    exact ⟨text, (alike.scanned entry listed scanned).symm.trans held, sound⟩
  · obtain ⟨text, held, named⟩ := dependencies
    exact ⟨text, alike.manifest.symm.trans held, named⟩

theorem Project.conforms_congr {project : Project} {disk other : Disk}
    (alike : project.LooksAlike disk other) : project.Conforms disk ↔ project.Conforms other :=
  ⟨fun conforms => conforms.of_looksAlike alike, fun conforms => conforms.of_looksAlike alike.symm⟩

end Preflight
