import Preflight.Proofs.Check.Plain
import Preflight.Proofs.Program.ExitCode

/-!
What the environment changes of a run: whether its report is coloured, and nothing else that anyone
can see on standard output or in the exit code.

The codes of the styles take room. So there is one way to tell two environments apart: a sink that
takes the plain report and has no room for the coloured one.
-/

namespace Preflight

open CommandLine (Options)
open Terminal (Coloured Environment Sink deleteCodeBytes deleteCodes escapeFree_ofList isColoured)

/-- The same surroundings with another environment. -/
def Surroundings.within (surroundings : Surroundings) (environment : Environment) : Surroundings :=
  { surroundings with environment }

namespace Program

section Environments

variable (surroundings : Surroundings) {options : Options} {other : Environment}

/-! ## A check -/

/-- A check writes its report in one of two renderings, and the environment only says in which. -/
theorem check_congr (project : Project)
    (same : options.format = .json ∨
      isColoured surroundings.environment = isColoured other) :
    (check (surroundings.within other) options project).output =
        (check surroundings options project).output ∧
      (check (surroundings.within other) options project).code =
        (check surroundings options project).code := by
  have pieces : (project.run surroundings.disk).pieces options.format (isColoured other) =
      (project.run surroundings.disk).pieces options.format
        (isColoured surroundings.environment) := by
    rcases same with json | same
    · rw [json]
      rfl
    · rw [same]
  have written : (project.run surroundings.disk).renderInto surroundings.output options.format
        (isColoured other) =
      (project.run surroundings.disk).renderInto surroundings.output options.format
        (isColoured surroundings.environment) :=
    congrArg surroundings.output.write pieces
  simp only [check, Surroundings.within, written]
  cases ((project.run surroundings.disk).renderInto surroundings.output options.format
    (isColoured surroundings.environment)).fault <;> exact ⟨rfl, rfl⟩

/-- The code of a check that reports as text: two when there is no room for the rendering that its
environment asks for, and else the one that the verdict has. -/
theorem code_check_text (project : Project) (format : options.format = .text) :
    surroundings.output.Rejects ((project.run surroundings.disk).render .text
          (isColoured surroundings.environment)) ∧
        (check surroundings options project).code = 2 ∨
      ¬surroundings.output.Rejects ((project.run surroundings.disk).render .text
          (isColoured surroundings.environment)) ∧
        (check surroundings options project).code ≠ 2 ∧
        (check surroundings options project).code =
          if options.reportOnly then 0 else (project.run surroundings.disk).verdict.exitCode := by
  rw [← format]
  by_cases rejected : surroundings.RejectsReport options project
  · exact .inl ⟨rejected, code_check_of_rejectsReport rejected⟩
  · refine .inr ⟨rejected, ?_, code_check_of_not_rejectsReport rejected⟩
    rcases code_check_cases rejected with ⟨code, -⟩ | ⟨code, -⟩ <;> omega

/-- Two codes show that the coloured report is too long for its sink: one that takes both renderings
or none leads to one code. -/
theorem tooLongInColour_of_code_ne {project : Project} (format : options.format = .text)
    (differ : (check (surroundings.within other) options project).code ≠
      (check surroundings options project).code) :
    (project.run surroundings.disk).TooLongInColour surroundings.output := by
  have mine := code_check_text surroundings project format
  have yours := code_check_text (surroundings.within other) project format
  rcases (project.run surroundings.disk).rejects_cases surroundings.output with
    rejected | taken | tooLong
  · rcases mine with ⟨-, code⟩ | ⟨taken, -⟩
    · rcases yours with ⟨-, codeOther⟩ | ⟨taken, -⟩
      · exact absurd (codeOther.trans code.symm) differ
      · exact absurd (rejected _) taken
    · exact absurd (rejected _) taken
  · rcases mine with ⟨rejected, -⟩ | ⟨-, -, code⟩
    · exact absurd rejected (taken _)
    · rcases yours with ⟨rejected, -⟩ | ⟨-, -, codeOther⟩
      · exact absurd rejected (taken _)
      · exact absurd (codeOther.trans code.symm) differ
  · exact tooLong

/-- When both renderings are asked for and only one fits, one code is two and the other is not. -/
theorem code_check_ne {project : Project} (format : options.format = .text)
    (colours : isColoured surroundings.environment ≠ isColoured other)
    (tooLong : (project.run surroundings.disk).TooLongInColour surroundings.output) :
    (check (surroundings.within other) options project).code ≠
      (check surroundings options project).code := by
  intro same
  obtain ⟨fits, full⟩ := tooLong
  have asked (coloured : Bool) : isColoured surroundings.environment = coloured ∨
      isColoured (surroundings.within other).environment = coloured := by
    by_contra neither
    rw [not_or] at neither
    exact colours ((Bool.eq_not.2 neither.1).trans (Bool.eq_not.2 neither.2).symm)
  rcases code_check_text surroundings project format with ⟨rejected, code⟩ | ⟨taken, good, -⟩
  · rcases code_check_text (surroundings.within other) project format with
      ⟨rejectedOther, -⟩ | ⟨-, good, -⟩
    · rcases asked false with plain | plain
      · exact fits (plain ▸ rejected)
      · exact fits (plain ▸ rejectedOther)
    · exact good (same.trans code)
  · rcases code_check_text (surroundings.within other) project format with
      ⟨-, code⟩ | ⟨takenOther, -⟩
    · exact good (same.symm.trans code)
    · rcases asked true with coloured | coloured
      · exact taken (coloured.symm ▸ full)
      · exact takenOther (coloured.symm ▸ full)

/-- Two environments give a check different codes when one of them adds colour to its text and there
is no room for that. -/
theorem code_check_ne_iff (project : Project) :
    (check (surroundings.within other) options project).code ≠
        (check surroundings options project).code ↔
      options.format = .text ∧ isColoured surroundings.environment ≠ isColoured other ∧
        (project.run surroundings.disk).TooLongInColour surroundings.output := by
  constructor
  · intro differ
    cases format : options.format with
    | json => exact absurd (check_congr surroundings project (.inl format)).2 differ
    | text =>
      exact ⟨rfl, fun same => differ (check_congr surroundings project (.inr same)).2,
        tooLongInColour_of_code_ne surroundings format differ⟩
  · rintro ⟨format, colours, tooLong⟩
    exact code_check_ne surroundings format colours tooLong

/-- What a check has written is what its sink has taken of the report. -/
theorem output_check (project : Project) :
    (check surroundings options project).output =
      ((project.run surroundings.disk).renderInto surroundings.output options.format
        (isColoured surroundings.environment)).bytes := by
  unfold check
  dsimp only
  cases ((project.run surroundings.disk).renderInto surroundings.output options.format
    (isColoured surroundings.environment)).fault <;> rfl

/-- What a check has written, without the codes, when there is room for its report. -/
theorem deleteCodeBytes_check {project : Project} (format : options.format = .text)
    (taken : ¬surroundings.output.Rejects
      ((project.run surroundings.disk).render .text (isColoured surroundings.environment)))
    (plain : (project.run surroundings.disk).IsPlain) :
    deleteCodeBytes (check surroundings options project).output =
      Text.Utf8.encode ((project.run surroundings.disk).render .text false) := by
  rw [← format] at taken
  rw [check_of_not_rejectsReport taken, format]
  exact Report.deleteCodeBytes_render plain _

/-- With room for colour, two environments make a check write the same but for the codes. -/
theorem deleteCodeBytes_check_congr (other : Environment) {project : Project}
    (taken : ¬surroundings.output.Rejects ((project.run surroundings.disk).render .text true))
    (plain : (project.run surroundings.disk).IsPlain) :
    deleteCodeBytes (check (surroundings.within other) options project).output =
      deleteCodeBytes (check surroundings options project).output := by
  cases format : options.format with
  | json => rw [(check_congr surroundings project (.inl format)).1]
  | text =>
    have fits (coloured : Bool) : ¬surroundings.output.Rejects
        ((project.run surroundings.disk).render .text coloured) := by
      rcases (project.run surroundings.disk).rejects_cases surroundings.output with
        rejected | fits | tooLong
      · exact absurd (rejected true) taken
      · exact fits coloured
      · exact absurd tooLong.2 taken
    rw [deleteCodeBytes_check surroundings format (fits _) plain,
      deleteCodeBytes_check (surroundings.within other) format (fits _) plain]
    rfl

/-- In a sink that the plain report would fill, a coloured report is cut short. -/
theorem deleteCodeBytes_check_ne {project : Project} (format : options.format = .text)
    (coloured : isColoured surroundings.environment = true)
    (room : surroundings.output.room =
      some (Text.Utf8.encode ((project.run surroundings.disk).render .text false)).length) :
    deleteCodeBytes (check surroundings options project).output ≠
      Text.Utf8.encode ((project.run surroundings.disk).render .text false) := by
  rw [output_check, format, coloured, Report.renderInto, Sink.write_of_room room,
    Terminal.Written.bytes_upTo]
  exact Report.deleteCodeBytes_take_ne _

/-! ## A run -/

/-- A run that prints its layout, or that finds no project, never looks at the environment. -/
theorem perform_within (same : options.printLayout = true ∨
      ∀ project, ¬surroundings.IsProject options project) :
    perform (surroundings.within other) options = perform surroundings options := by
  have found : Project.ofOptions (surroundings.within other) options =
      Project.ofOptions surroundings options := rfl
  rw [perform, perform, found]
  cases asked : Project.ofOptions surroundings options with
  | error error => rfl
  | ok project =>
    rcases same with printing | none
    · simp only [printing]
      rfl
    · exact absurd (Surroundings.isProject_iff.2 asked) (none project)

/-- Any other run is a check of the one project that it finds, in both environments. -/
theorem perform_within_cases (options : Options) (other : Environment) :
    perform (surroundings.within other) options = perform surroundings options ∧
        ¬(options.printLayout = false ∧ ∃ project, surroundings.IsProject options project) ∨
      ∃ project, options.printLayout = false ∧
        (∀ found, surroundings.IsProject options found ↔ found = project) ∧
        perform surroundings options = check surroundings options project ∧
        perform (surroundings.within other) options =
          check (surroundings.within other) options project := by
  by_cases looks : options.printLayout = false ∧
      ∃ project, surroundings.IsProject options project
  · obtain ⟨checking, project, found⟩ := looks
    refine .inr ⟨project, checking, fun another => ⟨fun also => ?_, fun same => same ▸ found⟩,
      perform_of_isProject found checking, perform_of_isProject found checking⟩
    exact Except.ok.inj ((Surroundings.isProject_iff.1 also).symm.trans
      (Surroundings.isProject_iff.1 found))
  · refine .inl ⟨perform_within surroundings ?_, looks⟩
    rwa [not_and_or, Bool.not_eq_false, not_exists] at looks

end Environments

/-! ## A root without files -/

/-- An environment that forces colour. -/
def colourForced : Environment := fun name => if name = "FORCE_COLOR" then some "1" else none

/-- A file system without files, and an environment that sets nothing. -/
def barren (sink : Sink) : Surroundings :=
  ⟨.error .notFound, FileSystem.empty.disk [], fun _ => none, sink⟩

/-- The options of the words `--root-dir r`. -/
def barrenOptions : Options := ⟨some "r", none, .text, false, false⟩

theorem isProject_barren_iff {sink : Sink} {project : Project} :
    (barren sink).IsProject barrenOptions project ↔ project = .ofRoot "r" := by
  obtain ⟨root, layout⟩ := project
  rw [Project.ofRoot, Project.mk.injEq]
  exact Iff.rfl

theorem isPlain_barren (sink : Sink) : (Project.ofRoot "r").IsPlain (barren sink).disk where
  root := escapeFree_ofList (by decide)
  manifest := escapeFree_ofList (by decide)
  required := by
    simp only [Project.ofRoot, Layout.flutter, List.forall_mem_cons, List.not_mem_nil,
      false_implies, implies_true, and_true]
    and_intros <;> exact escapeFree_ofList (by decide)
  paths := by
    simp only [Project.ofRoot, Layout.flutter, Layout.paths, Entry.structural, Entry.source,
      List.map_cons, List.map_nil, List.forall_mem_cons, List.not_mem_nil, false_implies,
      implies_true, and_true]
    and_intros <;> exact escapeFree_ofList (by decide)
  targets := by
    intro path _ text held
    change (FileSystem.look .empty [] (Project.resolve (.ofRoot "r") path)).bind Found.read =
      .ok (Text.Utf8.encode text) at held
    rw [FileSystem.look] at held
    cases led : FileSystem.empty.locate [] (Project.resolve (.ofRoot "r") path) with
    | error fault =>
      rw [led] at held
      cases held
    | ok place =>
      rw [led] at held
      cases held

/-! ## The result -/

/-- Colour changes nothing but colour. The coloured text of a report is the plain one with codes
around some of it, never one style inside another, unless the report quotes escape characters of its
own. A run looks at the environment for the colour alone. So two environments agree on standard
output when it is no text or the same in colour, and otherwise, when there is room for colour, they
agree without the codes. They give two codes only where one adds colour and the sink takes the plain
report and has no room for the coloured one. Of the faults that a report quotes those of a file
system are plain, if what is locked in it is locked for plain reasons. -/
theorem run_up_to_colour :
    (∀ report : Report, report.IsPlain →
      deleteCodes (report.render .text true).toList = (report.render .text false).toList ∧
      Coloured (report.render .text true).toList (report.render .text false).toList) ∧
    (∀ (surroundings : Surroundings) (other : Environment) (words : List String)
      (options : Options), CommandLine.parse words = .ok (.run options) →
      let outcome := run surroundings words
      let outcomeOther := run (surroundings.within other) words
      (outcomeOther.code ≠ outcome.code ↔
        options.format = .text ∧ options.printLayout = false ∧
          isColoured surroundings.environment ≠ isColoured other ∧
          ∃ project, surroundings.IsProject options project ∧
            (project.run surroundings.disk).TooLongInColour surroundings.output) ∧
      (options.format = .json ∨ options.printLayout = true ∨
          isColoured surroundings.environment = isColoured other →
        outcomeOther.output = outcome.output) ∧
      (surroundings.disk.HasPlainFaults →
        (∀ project, surroundings.IsProject options project →
          ¬surroundings.output.Rejects ((project.run surroundings.disk).render .text true) ∧
            project.IsPlain surroundings.disk) →
        deleteCodeBytes outcomeOther.output = deleteCodeBytes outcome.output)) ∧
    ∀ (fs : FileSystem) (here : Place), fs.HasPlainLocks → (fs.disk here).HasPlainFaults := by
  refine ⟨fun report plain => ?_, ?_, fun fs here worded => fs.hasPlainFaults_disk worded here⟩
  · exact ⟨(Report.coloured_render plain).deleteCodes_eq, Report.coloured_render plain⟩
  intro surroundings other words options parsed
  dsimp only
  rw [run_of_parse parsed, run_of_parse parsed]
  rcases perform_within_cases surroundings options other with
    ⟨same, unlooked⟩ | ⟨project, checking, only, performed, performedOther⟩
  · rw [same]
    refine ⟨iff_of_false (· rfl) ?_, fun _ => rfl, fun _ _ => rfl⟩
    rintro ⟨-, checking, -, project, found, -⟩
    exact unlooked ⟨checking, project, found⟩
  · rw [performed, performedOther]
    refine ⟨?_, ?_, ?_⟩
    · rw [code_check_ne_iff surroundings project]
      simp only [checking, only, exists_eq_left, true_and]
    · rintro (json | printing | same)
      · exact (check_congr surroundings project (.inl json)).1
      · rw [checking] at printing
        cases printing
      · exact (check_congr surroundings project (.inr same)).1
    · intro worded given
      obtain ⟨taken, plain⟩ := given project ((only project).2 rfl)
      exact deleteCodeBytes_check_congr surroundings other taken (plain.run worded)

/-- Without files, the report lists what is missing in either environment. -/
theorem run_up_to_colour_unlimited :
    (run ((barren .unlimited).within colourForced) ["--root-dir", "r"]).code =
        (run (barren .unlimited) ["--root-dir", "r"]).code ∧
      deleteCodeBytes (run ((barren .unlimited).within colourForced) ["--root-dir", "r"]).output =
        deleteCodeBytes (run (barren .unlimited) ["--root-dir", "r"]).output := by
  have parsed : CommandLine.parse ["--root-dir", "r"] = .ok (.run barrenOptions) := rfl
  obtain ⟨codes, -, outputs⟩ :=
    run_up_to_colour.2.1 (barren .unlimited) colourForced _ barrenOptions parsed
  have worded : (barren .unlimited).disk.HasPlainFaults :=
    run_up_to_colour.2.2 .empty [] FileSystem.hasPlainLocks_empty
  have roomy (text : String) : ¬Sink.unlimited.Rejects text := Sink.not_rejects_unlimited text
  refine ⟨?_, outputs worded ?_⟩
  · by_contra differ
    obtain ⟨-, -, -, project, -, -, full⟩ := codes.1 differ
    exact roomy _ full
  · intro project found
    rw [isProject_barren_iff.1 found]
    exact ⟨roomy _, isPlain_barren .unlimited⟩

/-- Where the plain report just fits, a run without colour ends in its verdict, and the same run
with colour ends in code two and leaves a part of the report out. -/
theorem run_apart_in_colour :
    let report := Project.run (.ofRoot "r") (FileSystem.empty.disk [])
    let sink : Sink := ⟨some (Text.Utf8.encode (report.render .text false)).length, .noSpace⟩
    (run (barren sink) ["--root-dir", "r"]).code ≠ 2 ∧
      (run ((barren sink).within colourForced) ["--root-dir", "r"]).code = 2 ∧
      deleteCodeBytes (run ((barren sink).within colourForced) ["--root-dir", "r"]).output ≠
        deleteCodeBytes (run (barren sink) ["--root-dir", "r"]).output := by
  intro report sink
  have parsed : CommandLine.parse ["--root-dir", "r"] = .ok (.run barrenOptions) := rfl
  have found : (barren sink).IsProject barrenOptions (.ofRoot "r") := isProject_barren_iff.2 rfl
  have foundOther : ((barren sink).within colourForced).IsProject barrenOptions (.ofRoot "r") :=
    found
  have format : barrenOptions.format = .text := rfl
  have plain : isColoured (barren sink).environment = false := rfl
  have coloured : isColoured ((barren sink).within colourForced).environment = true := by decide
  obtain ⟨fits, full⟩ : report.TooLongInColour sink := report.tooLongInColour_of_full .noSpace
  rw [run_eq_check parsed rfl found, run_eq_check parsed rfl foundOther]
  refine ⟨?_, ?_, ?_⟩
  · rcases code_check_text (barren sink) (.ofRoot "r") format with ⟨rejected, -⟩ | ⟨-, good, -⟩
    · exact absurd (plain ▸ rejected) fits
    · exact good
  · rcases code_check_text ((barren sink).within colourForced) (.ofRoot "r") format with
      ⟨-, code⟩ | ⟨taken, -⟩
    · exact code
    · exact absurd full (coloured ▸ taken)
  · have taken : ¬(barren sink).output.Rejects
        (report.render .text (isColoured (barren sink).environment)) := by
      rw [plain]
      exact fits
    have worded : (barren sink).disk.HasPlainFaults :=
      FileSystem.hasPlainFaults_disk FileSystem.hasPlainLocks_empty []
    rw [deleteCodeBytes_check (barren sink) format taken ((isPlain_barren sink).run worded)]
    exact deleteCodeBytes_check_ne ((barren sink).within colourForced) format coloured rfl

end Program

end Preflight
