import Preflight.Proofs.Check.Account

/-!
What each entry of a layout adds to the report of a run.

Three of the checks go through the entries, and what they find on account of one entry is decided by
that entry alone. So the reports on two lists of entries make up the report on both together, and no
file that is missing, unreadable or full of offences changes what is said of another.
-/

namespace Preflight

/-- A project with other entries. -/
def Project.withEntries (project : Project) (entries : List Entry) : Project :=
  { project with layout := { project.layout with entries } }

namespace Check

/-! ## One entry -/

section One

variable (project : Project) (disk : Disk) (entry : Entry)

/-- What a check finds on account of one entry. The check of dependencies looks at none. -/
def findingsFor : Check → List Finding
  | presence => if project.Misses disk entry.path then [.missingFile entry.path] else []
  | imports =>
      if entry.scanImports then
        importFindings project.layout.exemptPrefixes entry.path (project.source disk entry.path)
      else []
  | dependencies => []
  | statistics =>
      if entry.countLines then statisticsFindings entry.path (project.source disk entry.path)
      else []

/-- The number of lines that one entry adds, if it is counted. -/
def lineCountFor? : Option Nat :=
  if entry.countLines then lineCount? (project.source disk entry.path) else none

end One

theorem flatMap_filter {α β : Type} (keep : α → Bool) (part : α → List β) (items : List α) :
    (items.filter keep).flatMap part =
      items.flatMap fun item => if keep item then part item else [] := by
  induction items with
  | nil => rfl
  | cons item items ih =>
    rw [List.filter_cons, List.flatMap_cons, ← ih]
    cases keep item <;> rfl

/-- The findings of a check that goes through the entries are those on account of each. -/
theorem findings_result {check : Check} (other : check ≠ .dependencies) (project : Project)
    (disk : Disk) :
    (check.result project disk).findings =
      project.layout.entries.flatMap fun entry => check.findingsFor project disk entry := by
  cases check with
  | presence =>
    rw [result, Project.findings_checkPresence, List.map_eq_flatMap, flatMap_filter]
    simp only [findingsFor, decide_eq_true_eq]
  | imports =>
    rw [result, checkImports, CheckResult.ofFindings, Layout.importSources, List.flatMap_map,
      flatMap_filter]
    rfl
  | dependencies => exact absurd rfl other
  | statistics =>
    rw [result, checkStatistics, Layout.countedSources, List.flatMap_map, flatMap_filter]
    rfl

theorem metrics_checkStatistics (project : Project) (disk : Disk) (entries : List Entry) :
    (checkStatistics (project.withEntries entries) disk).metrics =
      some (summarize (entries.filterMap (lineCountFor? project disk))) := by
  rw [checkStatistics, Layout.countedSources, List.filterMap_map, List.filterMap_filter]
  rfl

/-! ## Two lists of entries -/

theorem totalFiles_summarize_append (counts others : List Nat) :
    (summarize (counts ++ others)).totalFiles =
      (summarize counts).totalFiles + (summarize others).totalFiles :=
  List.length_append

theorem totalLines_summarize_append (counts others : List Nat) :
    (summarize (counts ++ others)).totalLines =
      (summarize counts).totalLines + (summarize others).totalLines := by
  simp only [summarize, List.foldl_append]
  have behind : others.foldl (· + ·) (counts.foldl (· + ·) 0 + 0) =
      counts.foldl (· + ·) 0 + others.foldl (· + ·) 0 := List.foldl_assoc
  exact behind

theorem findings_result_append {check : Check} (other : check ≠ .dependencies) (project : Project)
    (disk : Disk) (front back : List Entry) :
    (check.result (project.withEntries (front ++ back)) disk).findings =
      (check.result (project.withEntries front) disk).findings ++
        (check.result (project.withEntries back) disk).findings := by
  simp only [findings_result other]
  exact List.flatMap_append

/-- A check that passes when it finds nothing passes for two lists of entries together when it
passes for both. -/
theorem passed_result_append {check : Check} (fails : check = .presence ∨ check = .imports)
    (project : Project) (disk : Disk) (front back : List Entry) :
    (check.result (project.withEntries (front ++ back)) disk).passed = true ↔
      (check.result (project.withEntries front) disk).passed = true ∧
        (check.result (project.withEntries back) disk).passed = true := by
  have other : check ≠ .dependencies := by
    rintro rfl
    rcases fails with same | same <;> cases same
  have silent (entries : List Entry) :
      (check.result (project.withEntries entries) disk).passed = true ↔
        (check.result (project.withEntries entries) disk).findings = [] := by
    rcases fails with rfl | rfl <;> exact passed_ofFindings
  rw [silent, silent, silent, findings_result_append other, List.append_eq_nil_iff]

end Check

/-! ## Reports -/

namespace Report

/-- The result that a report has of a check, if it has one. -/
def resultOf? (report : Report) (check : Check) : Option CheckResult :=
  report.results.find? (·.name == check.title)

/-- Whether a check has passed in a report. -/
def Passes (report : Report) (check : Check) : Prop :=
  ∃ result, report.resultOf? check = some result ∧ result.passed = true

/-- Whether a report is made up of two: that on some entries and that on the entries behind them. -/
structure Joins (whole front back : Report) : Prop where
  /-- The checks that go through the entries find what they do in front, and then what they do
  behind. -/
  findings (check : Check) : check ≠ .dependencies →
    whole.findingsOf check = front.findingsOf check ++ back.findingsOf check
  /-- The check of dependencies has the same result for all entries. -/
  dependencies : ∃ result, whole.resultOf? .dependencies = some result ∧
    front.resultOf? .dependencies = some result ∧ back.resultOf? .dependencies = some result
  /-- Files and lines add up. -/
  metrics : ∃ total first second, whole.metrics? = some total ∧ front.metrics? = some first ∧
    back.metrics? = some second ∧ total.totalFiles = first.totalFiles + second.totalFiles ∧
    total.totalLines = first.totalLines + second.totalLines
  /-- The checks of presence and of imports pass when they do in front and behind. -/
  passes (check : Check) : check = .presence ∨ check = .imports →
    (whole.Passes check ↔ front.Passes check ∧ back.Passes check)

end Report

namespace Project

theorem resultOf?_run (project : Project) (disk : Disk) (check : Check) :
    (project.run disk).resultOf? check = some (check.result project disk) := by
  cases check <;> rfl

theorem passes_run_iff {project : Project} {disk : Disk} {check : Check} :
    (project.run disk).Passes check ↔ (check.result project disk).passed = true := by
  rw [Report.Passes, resultOf?_run]
  simp only [Option.some.injEq, exists_eq_left']

theorem joins_run (project : Project) (disk : Disk) (front back : List Entry) :
    ((project.withEntries (front ++ back)).run disk).Joins
      ((project.withEntries front).run disk) ((project.withEntries back).run disk) where
  findings check other := by
    simp only [findingsOf_run]
    exact Check.findings_result_append other project disk front back
  dependencies :=
    ⟨Check.checkDependencies project disk, resultOf?_run _ disk .dependencies,
      resultOf?_run _ disk .dependencies, resultOf?_run _ disk .dependencies⟩
  metrics := by
    simp only [metrics?_run, Check.metrics_checkStatistics, List.filterMap_append]
    exact ⟨_, _, _, rfl, rfl, rfl, Check.totalFiles_summarize_append _ _,
      Check.totalLines_summarize_append _ _⟩
  passes check fails := by
    simp only [passes_run_iff]
    exact Check.passed_result_append fails project disk front back

/-- The report on two lists of entries together is made up of the reports on each. So what is found
on any entries is what is found on each of them by itself, one after the other. -/
theorem run_append :
    (∀ (project : Project) (disk : Disk) (front back : List Entry),
      ((project.withEntries (front ++ back)).run disk).Joins
        ((project.withEntries front).run disk) ((project.withEntries back).run disk)) ∧
    ∀ (project : Project) (disk : Disk) (entries : List Entry) (check : Check),
      check ≠ .dependencies →
      ((project.withEntries entries).run disk).findingsOf check =
        entries.flatMap fun entry => ((project.withEntries [entry]).run disk).findingsOf check := by
  refine ⟨joins_run, fun project disk entries check other => ?_⟩
  induction entries with
  | nil =>
    rw [findingsOf_run, Check.findings_result other]
    rfl
  | cons entry entries ih =>
    have both := (joins_run project disk [entry] entries).findings check other
    rw [List.flatMap_cons, ← ih]
    exact both

/-- An entry that is missing and one with an offence, and behind them one that cannot be opened, a
directory and the offending one again. -/
theorem run_append_failures :
    let project : Project := ⟨"p", ⟨"m", ["x"], ["dart:"], []⟩⟩
    let disk : Disk := .ofLook fun path =>
      if path = "p/a" then .ok (.file (Text.Utf8.encode "import 'y'\n"))
      else if path = "p/b" then .ok (.locked .permissionDenied)
      else if path = "p/d" then .ok .directory
      else .error .notFound
    let front : List Entry := [⟨"c", true, true⟩, ⟨"a", true, true⟩]
    let back : List Entry := [⟨"b", true, true⟩, ⟨"d", true, true⟩, ⟨"a", true, false⟩]
    let whole := (project.withEntries (front ++ back)).run disk
    let unopened : Finding :=
      .fileRead "b" .io "failed to read p/b: Permission denied (os error 13)"
    let unread : Finding := .fileRead "d" .io "failed to read p/d: Is a directory (os error 21)"
    Check.presence ≠ .dependencies ∧ Check.imports ≠ .dependencies ∧
      Check.statistics ≠ .dependencies ∧
      whole.findingsOf .presence = [.missingFile "c"] ++ [] ∧
      whole.findingsOf .imports =
        [.malformedImport "a" "y"] ++ [unopened, unread, .malformedImport "a" "y"] ∧
      whole.findingsOf .statistics = [unopened, unread] := by
  intro project disk front back whole unopened unread
  have presence : Check.presence ≠ .dependencies := by decide
  have imports : Check.imports ≠ .dependencies := by decide
  have statistics : Check.statistics ≠ .dependencies := by decide
  refine ⟨presence, imports, statistics, ?_, ?_, ?_⟩
  · rw [(run_append.1 project disk front back).findings .presence presence]
    decide +kernel
  · rw [(run_append.1 project disk front back).findings .imports imports]
    decide +kernel
  · rw [run_append.2 project disk (front ++ back) .statistics statistics]
    decide +kernel

end Project

end Preflight
