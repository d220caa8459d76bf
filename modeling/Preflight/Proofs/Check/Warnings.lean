import Preflight.Log.Filter
import Preflight.Proofs.Check.Account

/-!
The warnings of a run and the findings that they go with.

A check that goes through sources warns of each one that is there and cannot be read, and notes the
same source in its findings. For each source it does both or neither, so after any number of them
its warnings are those that its findings call for. The checks of presence and of dependencies find
nothing that calls for a warning, and give none.
-/

namespace Preflight

/-! ## What warns, and what calls for a warning -/

def Log.Event.isWarning (event : Log.Event) : Bool :=
  event.level == .warn

/-- The warning that a finding of a check calls for. A note on a source calls for one that carries
its path and its message, and no other finding calls for any. -/
def Finding.warning? (check : Check) : Finding → Option Log.Event
  | fileRead path _ message => some (.skipped check path message)
  | _ => none

/-- The warnings that the findings of a report call for: those of the check of imports, and behind
them those of the statistics. -/
def Report.warnings (report : Report) : List Log.Event :=
  (report.findingsOf .imports).filterMap (Finding.warning? .imports) ++
    (report.findingsOf .statistics).filterMap (Finding.warning? .statistics)

/-- The warnings that a check gives on account of one source. -/
def Source.warnings (check : Check) (path : String) : Source → List Log.Event
  | unreadable error => [.skipped check path error.message]
  | _ => []

/-! ## One source -/

section One

variable (check : Check) (disk : Disk) (path : String)

/-- Reading a file is logged in detail only. -/
theorem filter_isWarning_ofRead : (Log.ofRead disk path).filter (·.isWarning) = [] := by
  rw [Log.ofRead]
  cases disk.read path <;> rfl

/-- Of the events that a source leaves, those that warn are the ones that it gives reason for. -/
theorem filter_isWarning_ofSource (project : Project) :
    (Log.ofSource check project disk path).filter (·.isWarning) =
      (project.source disk path).warnings check path := by
  rw [Log.ofSource]
  cases project.source disk path with
  | absent => rfl
  | unreadable error =>
    dsimp only
    rw [List.filter_append, filter_isWarning_ofRead]
    rfl
  | readable text => exact filter_isWarning_ofRead disk _

theorem filterMap_warning?_importFindings (exempt : List String) (source : Source) :
    (Check.importFindings exempt path source).filterMap (Finding.warning? check) =
      source.warnings check path := by
  cases source with
  | absent => rfl
  | unreadable error => rfl
  | readable text =>
    have silent : (Check.importFindings exempt path (.readable text)).filterMap
        (Finding.warning? check) = [] := by
      rw [Check.importFindings, List.filterMap_map, List.filterMap_eq_nil_iff]
      exact fun _ _ => rfl
    exact silent

theorem filterMap_warning?_statisticsFindings (source : Source) :
    (Check.statisticsFindings path source).filterMap (Finding.warning? check) =
      source.warnings check path := by
  cases source <;> rfl

end One

/-! ## All sources of a check -/

/-- A check keeps its findings and its warnings in step: when the part that each source has in its
findings calls for the warnings that the source gives reason for, then so do, after any sources in
any order, all of its findings. -/
theorem filter_isWarning_flatMap_ofSource {check : Check} {part : String → Source → List Finding}
    (each : ∀ path source,
      (part path source).filterMap (Finding.warning? check) = source.warnings check path)
    (project : Project) (disk : Disk) (paths : List String) :
    (paths.flatMap (Log.ofSource check project disk)).filter (·.isWarning) =
      (paths.flatMap fun path => part path (project.source disk path)).filterMap
        (Finding.warning? check) := by
  induction paths with
  | nil => rfl
  | cons path paths ih =>
    rw [List.flatMap_cons, List.flatMap_cons, List.filter_append, List.filterMap_append,
      filter_isWarning_ofSource, each, ih]

/-! ## All checks of a run -/

namespace Check

/-- The checks that go through no sources find nothing that calls for a warning. -/
theorem filterMap_warning?_result {check : Check}
    (sourceless : check = .presence ∨ check = .dependencies) (project : Project) (disk : Disk) :
    (check.result project disk).findings.filterMap (Finding.warning? check) = [] := by
  rw [List.filterMap_eq_nil_iff]
  intro finding found
  rcases sourceless with rfl | rfl
  · obtain ⟨path, -, rfl⟩ := List.mem_map.1 found
    rfl
  · rcases project.findings_checkDependencies disk with ⟨error, -, noted⟩ | ⟨-, named⟩
    · rw [result, noted, List.mem_singleton] at found
      rw [found]
      rfl
    · obtain ⟨name, -, rfl⟩ := named finding found
      rfl

/-- The warnings of a check are the ones that its findings call for. -/
theorem filter_isWarning_events (project : Project) (disk : Disk) (check : Check) :
    (check.events project disk).filter (·.isWarning) =
      (check.result project disk).findings.filterMap (Finding.warning? check) := by
  cases check with
  | presence =>
    rw [filterMap_warning?_result (.inl rfl)]
    rfl
  | imports =>
    exact filter_isWarning_flatMap_ofSource
      (fun path => filterMap_warning?_importFindings .imports path project.layout.exemptPrefixes)
      project disk project.layout.importSources
  | dependencies =>
    rw [filterMap_warning?_result (.inr rfl)]
    exact filter_isWarning_ofRead disk _
  | statistics =>
    exact filter_isWarning_flatMap_ofSource (filterMap_warning?_statisticsFindings .statistics)
      project disk project.layout.countedSources

end Check

/-- The warnings of a run are the ones that its report calls for, in order. -/
theorem Project.filter_isWarning_runEvents (project : Project) (disk : Disk) :
    (project.runEvents disk).filter (·.isWarning) = (project.run disk).warnings := by
  have each (check : Check) :
      (check.events project disk ++
          [check.finishedEvent (check.result project disk)]).filter (·.isWarning) =
        (check.result project disk).findings.filterMap (Finding.warning? check) := by
    rw [List.filter_append, Check.filter_isWarning_events]
    exact List.append_nil _
  rw [runEvents, List.filter_flatMap]
  simp only [each, Check.all, List.flatMap_cons, List.flatMap_nil, List.append_nil]
  rw [Check.filterMap_warning?_result (.inl rfl), Check.filterMap_warning?_result (.inr rfl),
    List.nil_append, List.nil_append, Report.warnings, findingsOf_run, findingsOf_run]

/-! ## The filter by default -/

/-- By default a log shows the warnings: there are no graver events, and all others are about
details. -/
theorem Log.Filter.shows_warnings (event : Log.Event) :
    Log.Filter.warnings.shows event = event.isWarning := by
  cases event <;> rfl

end Preflight
