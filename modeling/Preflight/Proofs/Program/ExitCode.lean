import Preflight.Proofs.Check.Conforming
import Preflight.Proofs.Layout.RoundTrip
import Preflight.Proofs.Report.Render

/-!
The exit code of a run that checks a project.

Code two says that there was no project to check or no room for the report. In any other run the
code says whether the project conforms to its layout, unless no verdict is asked for. Nothing else
has a part in it.
-/

namespace Preflight

open CommandLine (Options)

/-! ## What a run is configured with -/

namespace Surroundings

section Configuration

variable (surroundings : Surroundings) (options : Options)

/-- Whether a root is the one given, or else the working directory. -/
def IsRoot (root : String) : Prop :=
  match options.rootDir with
  | some given => root = given
  | none => surroundings.workingDirectory = .ok root

/-- Whether a layout is the one that the file given describes and is sound, or else the built-in
one. -/
def IsLayout (layout : Layout) : Prop :=
  match options.layout with
  | none => layout = .flutter
  | some path =>
      ∃ text, surroundings.disk.Holds path text ∧ Layout.ofDocument text = .ok layout ∧
        layout.validate = .ok ()

/-- Whether there is a root and a layout to check with. -/
def IsConfigured : Prop :=
  (∃ root, surroundings.IsRoot options root) ∧ ∃ layout, surroundings.IsLayout options layout

/-- Whether a project is the one that options ask for. -/
def IsProject (project : Project) : Prop :=
  surroundings.IsRoot options project.root ∧ surroundings.IsLayout options project.layout

/-- Whether standard output has no room for the report on a project. -/
def RejectsReport (project : Project) : Prop :=
  surroundings.output.Rejects
    ((project.run surroundings.disk).render options.format
      (Terminal.isColoured surroundings.environment))

/-- The events that a check of a project logs: of those that it leaves, the ones that the filter in
the environment shows. -/
def logFor (project : Project) : List Log.Event :=
  (.running project.root :: project.runEvents surroundings.disk).filter
    (Log.Filter.ofSetting (surroundings.environment "RUST_LOG")).shows

end Configuration

variable {surroundings : Surroundings} {options : Options}

theorem isConfigured_iff :
    surroundings.IsConfigured options ↔ ∃ project, surroundings.IsProject options project :=
  ⟨fun ⟨⟨root, isRoot⟩, layout, isLayout⟩ => ⟨⟨root, layout⟩, isRoot, isLayout⟩,
    fun ⟨project, isRoot, isLayout⟩ => ⟨⟨project.root, isRoot⟩, project.layout, isLayout⟩⟩

theorem rootFor_eq_ok_iff {root : String} :
    surroundings.rootFor options = .ok root ↔ surroundings.IsRoot options root := by
  rw [rootFor, IsRoot]
  cases options.rootDir with
  | some given => simp [eq_comm]
  | none => cases surroundings.workingDirectory <;> simp [Except.mapError]

/-- The project that options ask for is the one that is found. -/
theorem isProject_iff {project : Project} :
    surroundings.IsProject options project ↔
      Project.ofOptions surroundings options = .ok project := by
  obtain ⟨root, layout⟩ := project
  rw [IsProject, ← rootFor_eq_ok_iff, IsLayout, Project.ofOptions]
  cases surroundings.rootFor options with
  | error error => simp [bind, Except.bind]
  | ok given =>
    cases options.layout with
    | none => simp [bind, Except.bind, pure, Except.pure, Project.ofRoot, eq_comm]
    | some path =>
      simp only [← Layout.load_eq_ok_iff]
      cases loaded : Layout.load surroundings.disk path with
      | error error => simp [bind, Except.bind]
      | ok active =>
        obtain ⟨-, -, -, valid⟩ := Layout.load_eq_ok_iff.1 loaded
        simp [bind, Except.bind, Project.withLayout, valid, Except.mapError, eq_comm]

end Surroundings

/-- An outcome of which no verdict is asked: code one turns into code zero. -/
def Outcome.excused (outcome : Outcome) : Outcome :=
  { outcome with code := if outcome.code = 1 then 0 else outcome.code }

namespace Program

variable {surroundings : Surroundings} {options : Options}

/-! ## A check of a project -/

/-- Without room for the report a check complains, whatever it has found, and leaves as much of the
report as there was room for. -/
theorem check_of_rejectsReport {project : Project}
    (rejected : surroundings.RejectsReport options project) :
    check surroundings options project =
      .failure (.unwrittenReport surroundings.output.fault)
        ((project.run surroundings.disk).renderInto surroundings.output options.format
          (Terminal.isColoured surroundings.environment)).bytes
        (surroundings.logFor project) := by
  rcases Report.renderInto_cases surroundings.output options.format
    (Terminal.isColoured surroundings.environment) (project.run surroundings.disk) with
    ⟨-, failed⟩ | ⟨taken, -⟩
  · simp only [check, failed]
    rfl
  · exact absurd rejected taken

/-- With room for the report a check writes it, complains of nothing and ends in its verdict, if one
is asked for. -/
theorem check_of_not_rejectsReport {project : Project}
    (taken : ¬surroundings.RejectsReport options project) :
    check surroundings options project =
      ⟨Text.Utf8.encode ((project.run surroundings.disk).render options.format
          (Terminal.isColoured surroundings.environment)),
        surroundings.logFor project, none,
        if options.reportOnly then 0 else (project.run surroundings.disk).verdict.exitCode⟩ := by
  rcases Report.renderInto_cases surroundings.output options.format
    (Terminal.isColoured surroundings.environment) (project.run surroundings.disk) with
    ⟨rejected, -⟩ | ⟨-, written⟩
  · exact absurd rejected taken
  · simp only [check, written]
    rfl

theorem code_check_of_rejectsReport {project : Project}
    (rejected : surroundings.RejectsReport options project) :
    (check surroundings options project).code = 2 := by
  rw [check_of_rejectsReport rejected]
  rfl

theorem code_check_of_not_rejectsReport {project : Project}
    (taken : ¬surroundings.RejectsReport options project) :
    (check surroundings options project).code =
      if options.reportOnly then 0 else (project.run surroundings.disk).verdict.exitCode := by
  rw [check_of_not_rejectsReport taken]

/-- The two ways in which a check can end that has room for its report. -/
theorem code_check_cases {project : Project}
    (taken : ¬surroundings.RejectsReport options project) :
    (check surroundings options project).code = 0 ∧
        (project.Conforms surroundings.disk ∨ options.reportOnly = true) ∨
      (check surroundings options project).code = 1 ∧
        ¬(project.Conforms surroundings.disk ∨ options.reportOnly = true) := by
  rw [code_check_of_not_rejectsReport taken]
  cases options.reportOnly with
  | true => exact .inl ⟨rfl, .inr rfl⟩
  | false =>
    rcases project.exitCode_run surroundings.disk with ⟨code, conforms⟩ | ⟨code, conforms⟩
    · exact .inl ⟨code, .inl conforms⟩
    · exact .inr ⟨code, fun h => h.elim conforms Bool.false_ne_true⟩

/-- Two checks have one code when both or neither of them has reason to end well. -/
theorem code_check_congr {other : Surroundings} {optionsOther : Options}
    {project projectOther : Project} (taken : ¬surroundings.RejectsReport options project)
    (takenOther : ¬other.RejectsReport optionsOther projectOther)
    (same : project.Conforms surroundings.disk ∨ options.reportOnly = true ↔
      projectOther.Conforms other.disk ∨ optionsOther.reportOnly = true) :
    (check surroundings options project).code = (check other optionsOther projectOther).code := by
  rcases code_check_cases taken with ⟨code, holds⟩ | ⟨code, fails⟩
  · rcases code_check_cases takenOther with ⟨codeOther, -⟩ | ⟨-, failsOther⟩
    · rw [code, codeOther]
    · exact absurd (same.1 holds) failsOther
  · rcases code_check_cases takenOther with ⟨-, holdsOther⟩ | ⟨codeOther, -⟩
    · exact absurd (same.2 holdsOther) fails
    · rw [code, codeOther]

/-- Asking for no verdict excuses the outcome and changes nothing else. -/
theorem check_reportOnly (project : Project) :
    check surroundings { options with reportOnly := true } project =
      (check surroundings { options with reportOnly := false } project).excused := by
  have same (asked : Bool) :
      surroundings.RejectsReport { options with reportOnly := asked } project ↔
        surroundings.RejectsReport options project := Iff.rfl
  by_cases rejected : surroundings.RejectsReport options project
  · rw [check_of_rejectsReport ((same true).2 rejected),
      check_of_rejectsReport ((same false).2 rejected)]
    rfl
  · rw [check_of_not_rejectsReport (mt (same true).1 rejected),
      check_of_not_rejectsReport (mt (same false).1 rejected)]
    cases (project.run surroundings.disk).verdict <;> rfl

/-! ## A run -/

/-- A run without a configuration ends before it has written anything. -/
theorem perform_of_not_isConfigured (unconfigured : ¬surroundings.IsConfigured options) :
    (perform surroundings options).code = 2 ∧ (perform surroundings options).output = [] := by
  rw [perform]
  cases found : Project.ofOptions surroundings options with
  | error error => exact ⟨rfl, rfl⟩
  | ok project =>
    exact absurd (Surroundings.isConfigured_iff.2 ⟨project, Surroundings.isProject_iff.2 found⟩)
      unconfigured

theorem perform_of_isProject {project : Project}
    (found : surroundings.IsProject options project) (checking : options.printLayout = false) :
    perform surroundings options = check surroundings options project := by
  simp only [perform, Surroundings.isProject_iff.1 found, checking]
  rfl

theorem run_of_parse {words : List String} (parsed : CommandLine.parse words = .ok (.run options)) :
    run surroundings words = perform surroundings options := by
  simp only [run, parsed]

/-- Asking for no verdict excuses the outcome, whatever else is asked for. -/
theorem perform_reportOnly :
    perform surroundings { options with reportOnly := true } =
      (perform surroundings { options with reportOnly := false }).excused := by
  have same : Project.ofOptions surroundings { options with reportOnly := true } =
      Project.ofOptions surroundings { options with reportOnly := false } := rfl
  rw [perform, perform, same]
  cases Project.ofOptions surroundings { options with reportOnly := false } with
  | error error => rfl
  | ok project =>
    dsimp only
    cases options.printLayout with
    | false => exact check_reportOnly project
    | true =>
      simp only [if_true, printLayout]
      cases (surroundings.output.write (project.layout.toJson.pieces 0 ++ ["\n"])).fault <;> rfl

theorem run_eq_check {words : List String} {project : Project}
    (parsed : CommandLine.parse words = .ok (.run options)) (checking : options.printLayout = false)
    (found : surroundings.IsProject options project) :
    run surroundings words = check surroundings options project := by
  rw [run_of_parse parsed, perform_of_isProject found checking]

/-- A run ends in code two when there is nothing to check with, or no room for the report. -/
theorem code_run_eq_two_iff {words : List String}
    (parsed : CommandLine.parse words = .ok (.run options))
    (checking : options.printLayout = false) :
    (run surroundings words).code = 2 ↔
      ¬surroundings.IsConfigured options ∨
        ∃ project, surroundings.IsProject options project ∧
          surroundings.RejectsReport options project := by
  by_cases configured : surroundings.IsConfigured options
  · obtain ⟨project, found⟩ := Surroundings.isConfigured_iff.1 configured
    rw [run_eq_check parsed checking found]
    constructor
    · intro failed
      refine .inr ⟨project, found, ?_⟩
      by_contra taken
      rcases code_check_cases taken with ⟨code, -⟩ | ⟨code, -⟩ <;> omega
    · rintro (unconfigured | ⟨other, also, rejected⟩)
      · exact absurd configured unconfigured
      · have same := (Surroundings.isProject_iff.1 found).symm.trans
          (Surroundings.isProject_iff.1 also)
        cases same
        exact code_check_of_rejectsReport rejected
  · rw [run_of_parse parsed]
    exact iff_of_true (perform_of_not_isConfigured configured).1 (.inl configured)

/-- What has room for its report ends in code zero or one. -/
theorem code_run_iff {words : List String} {project : Project}
    (parsed : CommandLine.parse words = .ok (.run options)) (checking : options.printLayout = false)
    (found : surroundings.IsProject options project)
    (taken : ¬surroundings.RejectsReport options project) :
    ((run surroundings words).code = 0 ↔
        project.Conforms surroundings.disk ∨ options.reportOnly = true) ∧
      ((run surroundings words).code = 1 ↔
        ¬(project.Conforms surroundings.disk ∨ options.reportOnly = true)) := by
  rw [run_eq_check parsed checking found]
  rcases code_check_cases taken with ⟨code, holds⟩ | ⟨code, fails⟩
  · exact ⟨iff_of_true code holds, iff_of_false (by omega) (not_not_intro holds)⟩
  · exact ⟨iff_of_false (by omega) fails, iff_of_true code fails⟩

/-- The exit code of a run that checks. Code two is for runs without a configuration, which write
nothing, and for output without room; any other run ends in code zero when the project conforms or
no verdict is asked for, and else in code one. So the code stays the same while files are marked for
the statistics or change for them alone, and asking for no verdict only excuses code one. -/
theorem code_of_run :
    (∀ (surroundings : Surroundings) (words : List String) (options : Options),
      CommandLine.parse words = .ok (.run options) → options.printLayout = false →
      ((run surroundings words).code = 2 ↔
        ¬surroundings.IsConfigured options ∨
          ∃ project, surroundings.IsProject options project ∧
            surroundings.RejectsReport options project) ∧
      (¬surroundings.IsConfigured options → (run surroundings words).output = []) ∧
      ∀ project, surroundings.IsProject options project →
        ¬surroundings.RejectsReport options project →
        ((run surroundings words).code = 0 ↔
          project.Conforms surroundings.disk ∨ options.reportOnly = true) ∧
        ((run surroundings words).code = 1 ↔
          ¬(project.Conforms surroundings.disk ∨ options.reportOnly = true))) ∧
    (∀ (surroundings other : Surroundings) (words wordsOther : List String)
      (options optionsOther : Options) (project projectOther : Project),
      CommandLine.parse words = .ok (.run options) → options.printLayout = false →
      CommandLine.parse wordsOther = .ok (.run optionsOther) → optionsOther.printLayout = false →
      options.reportOnly = optionsOther.reportOnly →
      surroundings.IsProject options project → other.IsProject optionsOther projectOther →
      ¬surroundings.RejectsReport options project →
      ¬other.RejectsReport optionsOther projectOther →
      project.uncounted = projectOther.uncounted →
      project.LooksAlike surroundings.disk other.disk →
      (run surroundings words).code = (run other wordsOther).code) ∧
    ∀ (surroundings : Surroundings) (words wordsOnly : List String) (options : Options),
      CommandLine.parse words = .ok (.run { options with reportOnly := false }) →
      CommandLine.parse wordsOnly = .ok (.run { options with reportOnly := true }) →
      run surroundings wordsOnly = (run surroundings words).excused := by
  refine ⟨fun surroundings words options parsed checking => ⟨?_, ?_, ?_⟩, ?_, ?_⟩
  · exact code_run_eq_two_iff parsed checking
  · intro unconfigured
    rw [run_of_parse parsed]
    exact (perform_of_not_isConfigured unconfigured).2
  · exact fun project found taken => code_run_iff parsed checking found taken
  · intro surroundings other words wordsOther options optionsOther project projectOther parsed
      checking parsedOther checkingOther sameOption found foundOther taken takenOther sameLayout
      alike
    have same : project.Conforms surroundings.disk ↔ projectOther.Conforms other.disk := by
      rw [Project.conforms_congr alike, ← Project.conforms_uncounted, sameLayout,
        Project.conforms_uncounted]
    rw [run_eq_check parsed checking found, run_eq_check parsedOther checkingOther foundOther]
    exact code_check_congr taken takenOther (by rw [same, sameOption])
  · intro surroundings words wordsOnly options parsed parsedOnly
    rw [run_of_parse parsed, run_of_parse parsedOnly]
    exact perform_reportOnly

/-! ## A project with a counted file -/

/-- Surroundings in which a file `l` describes a layout and other paths are looked up as given. -/
def describing (layout : Layout) (look : String → Except AccessFault Found) : Surroundings where
  workingDirectory := .error .notFound
  disk := .ofLook fun path =>
    if path = "l" then .ok (.file (Text.Utf8.encode layout.print)) else look path
  environment _ := none
  output := .unlimited

theorem isProject_describing {layout : Layout} (valid : layout.validate = .ok ())
    (look : String → Except AccessFault Found) :
    (describing layout look).IsProject ⟨some "p", some "l", .text, false, false⟩
      ⟨"p", layout⟩ := by
  have stored : (describing layout look).disk.Holds "l" layout.print := rfl
  exact ⟨rfl, layout.print, stored, layout.ofDocument_print, valid⟩

/-- A layout of a source that is scanned and a file that is counted alone. -/
def countedLayout : Layout := ⟨"m", ["x"], [], [⟨"a", true, true⟩, ⟨"b", false, true⟩]⟩

/-- A project with a source of some text and a counted file, and on standard output room for the
report on it and for nothing more. -/
def counted (text : String) (file : Found) : Surroundings :=
  let roomy := describing countedLayout fun path =>
    if path = "p/a" then .ok (.file (Text.Utf8.encode text))
    else if path = "p/b" then .ok file
    else if path = "p/m" then .ok (.file (Text.Utf8.encode "x: 1"))
    else .error .notFound
  let report := (Project.run ⟨"p", countedLayout⟩ roomy.disk).render .text false
  { roomy with output := ⟨some (Text.Utf8.encode report).length, .noSpace⟩ }

/-- A file that is counted and cannot be opened leaves the code as it is, and so does one that can
be read in its place. An import out of place does not, unless no verdict is asked for, and neither
does a layout that is missing. -/
theorem code_of_run_locked :
    let words := ["--root-dir", "p", "--layout", "l"]
    let tidy := counted "import './y'"
    let untidy := counted "import 'y'"
    let locked := Found.locked .permissionDenied
    (run (tidy locked) words).code = 0 ∧
      (run (tidy (.file [0x0A])) words).code = (run (tidy locked) words).code ∧
      (run (untidy locked) words).code = 1 ∧
      (run (untidy locked) (words ++ ["--report-only"])).code = 0 ∧
      (run (tidy locked) ["--root-dir", "p", "--layout", "n"]).code = 2 ∧
      (run (tidy locked) ["--root-dir", "p", "--layout", "n"]).output = [] := by
  intro words tidy untidy locked
  let options : Options := ⟨some "p", some "l", .text, false, false⟩
  let other : Options := ⟨some "p", some "n", .text, false, false⟩
  let project : Project := ⟨"p", countedLayout⟩
  have parsed : CommandLine.parse words = .ok (.run options) := rfl
  have parsedOnly : CommandLine.parse (words ++ ["--report-only"]) =
      .ok (.run { options with reportOnly := true }) := rfl
  have parsedOther : CommandLine.parse ["--root-dir", "p", "--layout", "n"] =
      .ok (.run other) := rfl
  have found (text : String) (file : Found) : (counted text file).IsProject options project :=
    isProject_describing (by decide) _
  have taken (text : String) (file : Found) :
      ¬(counted text file).RejectsReport options project :=
    Terminal.Sink.not_rejects_of_le rfl (Nat.le_refl _)
  have conforms : project.Conforms (tidy locked).disk :=
    Project.allPassed_run.1 (by decide +kernel)
  have offends : ¬project.Conforms (untidy locked).disk :=
    mt Project.allPassed_run.2 (by decide +kernel)
  have alike : project.LooksAlike (tidy (.file [0x0A])).disk (tidy locked).disk :=
    ⟨by decide, by decide, by decide⟩
  have unconfigured : ¬(tidy locked).IsConfigured other := by
    rintro ⟨-, layout, text, held, -⟩
    cases held
  have tidyCode := ((code_of_run.1 (tidy locked) _ _ parsed rfl).2.2 _ (found _ _) (taken _ _)).1
  have untidyCode :=
    ((code_of_run.1 (untidy locked) _ _ parsed rfl).2.2 _ (found _ _) (taken _ _)).2
  have failed : (run (untidy locked) words).code = 1 := untidyCode.2
    fun h => h.elim offends Bool.false_ne_true
  have missing := code_of_run.1 (tidy locked) _ _ parsedOther rfl
  refine ⟨tidyCode.2 (.inl conforms), ?_, failed, ?_, missing.1.2 (.inl unconfigured),
    missing.2.1 unconfigured⟩
  · exact code_of_run.2.1 _ _ _ _ _ _ _ _ parsed rfl parsed rfl rfl (found _ _) (found _ _)
      (taken _ _) (taken _ _) rfl alike
  · rw [code_of_run.2.2 (untidy locked) _ _ options parsed parsedOnly, Outcome.excused, failed]
    rfl

end Program

end Preflight
