import Preflight.Proofs.Check.Warnings
import Preflight.Proofs.Program.ExitCode
import Preflight.Proofs.Terminal.Codes
import Preflight.Proofs.Text.Quoted

/-!
What a run that checks a project puts on standard error.

Two things can stand there: the events that the filter shows, and behind them a complaint. A run
that has written its report has nothing to complain of. By default the filter shows the warnings,
and so standard error is, line by line, the notes on sources in the report. The lines are coloured
unless there is an objection, and what they quote is quoted as it stands.
-/

namespace Preflight

open CommandLine (Options)
open Terminal (EscapeFree Span escapeFree_ofList)

/-! ## Lines -/

/-- Quoted text writes the escape character by its number. -/
theorem Terminal.escapeFree_quoted (text : String) : EscapeFree (Text.quoted text) := by
  intro listed
  have unnumbered := Text.isNumbered_of_mem_quoted listed
  have numbered : Text.isNumbered '\x1b' = true := by decide
  rw [numbered] at unnumbered
  cases unnumbered

/-- The line that tells of a finding on standard error: a note on a source has one, with the path in
quotes and the message behind it, and no other finding has any. -/
def Finding.warningLine? (isColoured : Bool) (time : String) : Finding → Option String
  | fileRead path _ message =>
      some <| String.join <| List.flatMap (Span.pieces isColoured)
        [.styled .dimmed time, .plain " ", .styled ⟨[33], 0⟩ " WARN", .plain " ",
          .plain "skipping unreadable source",
          .plain " ", .styled .italic "file", .styled .dimmed "=", .plain (Text.quoted path),
          .plain " ", .styled .italic "error", .styled .dimmed "=", .plain message, .plain "\n"]
  | _ => none

/-- Which check warns, and how long it takes, does not show in the line of a warning. -/
theorem Finding.map_line_warning? (isColoured : Bool) (time elapsed : String) (check : Check)
    (finding : Finding) :
    (finding.warning? check).map (Log.Event.line isColoured time elapsed) =
      finding.warningLine? isColoured time := by
  cases finding <;> rfl

/-- The line of a warning holds no escape character but those of its codes and of its message. -/
theorem Log.Event.escapeFree_skipped {time error : String} (stamped : EscapeFree time)
    (worded : EscapeFree error) (elapsed : String) (check : Check) (file : String) :
    ∀ span ∈ (skipped check file error).spans time elapsed, EscapeFree span.text := by
  have literal {chars : List Char} (unmarked : '\x1b' ∉ chars) :
      EscapeFree (String.ofList chars) := escapeFree_ofList unmarked
  simp only [spans, fields, List.flatMap_cons, List.flatMap_nil, List.append_nil,
    List.forall_mem_append, List.forall_mem_cons, fieldSpans, Span.plain, Span.styled,
    List.not_mem_nil, false_implies, implies_true, and_true]
  refine ⟨⟨⟨stamped, literal ?_, literal ?_, literal ?_, literal ?_⟩,
    ⟨literal ?_, literal ?_, literal ?_, Terminal.escapeFree_quoted file⟩,
    ⟨literal ?_, literal ?_, literal ?_, worded⟩⟩, literal ?_⟩ <;> decide

/-- Where a log quotes no escape character, its text without codes is what is written without
colour. -/
theorem Outcome.errorText_eq {outcome : Outcome} {time elapsed : String}
    (plain : ∀ event ∈ outcome.log, ∀ span ∈ event.spans time elapsed, EscapeFree span.text) :
    outcome.errorText time elapsed = outcome.errorOutput false time elapsed := by
  have lines : (outcome.log.map fun event => Terminal.uncoloured (event.line true time elapsed)) =
      outcome.log.map (Log.Event.line false time elapsed) :=
    List.map_congr_left fun event logged => Terminal.uncoloured_join (plain event logged)
  rw [errorText, errorOutput, lines]

namespace Program

variable {surroundings : Surroundings}

/-- By default a check logs the warnings that its report calls for. -/
theorem logFor_by_default
    (filtered : Log.Filter.ofSetting (surroundings.environment "RUST_LOG") = .warnings)
    (project : Project) :
    surroundings.logFor project = (project.run surroundings.disk).warnings := by
  rw [Surroundings.logFor, filtered, ← project.filter_isWarning_runEvents,
    List.filter_congr fun event _ => Log.Filter.shows_warnings event]
  rfl

/-- The warnings that a report calls for, line by line. -/
theorem map_line_warnings (report : Report) (isColoured : Bool) (time elapsed : String) :
    report.warnings.map (Log.Event.line isColoured time elapsed) =
      (report.findingsOf .imports ++ report.findingsOf .statistics).filterMap
        (Finding.warningLine? isColoured time) := by
  simp only [Report.warnings, List.map_append, List.map_filterMap, Finding.map_line_warning?,
    List.filterMap_append]

/-- A warning that a report calls for carries the message of one of its notes. -/
theorem exists_note_of_mem_warnings {report : Report} {event : Log.Event}
    (called : event ∈ report.warnings) :
    ∃ check path kind message, event = .skipped check path message ∧
        .fileRead path kind message ∈
          report.findingsOf .imports ++ report.findingsOf .statistics := by
  have noted {check : Check} {findings : List Finding}
      (listed : event ∈ findings.filterMap (Finding.warning? check)) :
      ∃ path kind message, event = .skipped check path message ∧
        .fileRead path kind message ∈ findings := by
    obtain ⟨finding, found, warns⟩ := List.mem_filterMap.1 listed
    cases finding with
    | fileRead path kind message =>
      cases warns
      exact ⟨path, kind, message, rfl, found⟩
    | _ => cases warns
  rcases List.mem_append.1 called with first | second
  · obtain ⟨path, kind, message, same, found⟩ := noted first
    exact ⟨_, path, kind, message, same, List.mem_append_left _ found⟩
  · obtain ⟨path, kind, message, same, found⟩ := noted second
    exact ⟨_, path, kind, message, same, List.mem_append_right _ found⟩

/-- The warnings of a run are its notes on sources. The events that warn are, in order, one for each
note of the check of imports and then one for each note of the statistics, with the path and the
message of the note, whatever else is missing, unreadable or out of place. So by default a run that
has checked a project and written its report leaves on standard error one line for each of these
notes, coloured or not, and nothing else. Without codes the lines are the uncoloured ones, unless a
message quotes an escape character. -/
theorem warnings_of_run :
    (∀ (project : Project) (disk : Disk),
      (project.runEvents disk).filter (·.isWarning) = (project.run disk).warnings) ∧
    ∀ (surroundings : Surroundings) (words : List String) (options : Options) (project : Project),
      CommandLine.parse words = .ok (.run options) → options.printLayout = false →
      surroundings.IsProject options project → ¬surroundings.RejectsReport options project →
      Log.Filter.ofSetting (surroundings.environment "RUST_LOG") = .warnings →
      let report := project.run surroundings.disk
      let notes := report.findingsOf .imports ++ report.findingsOf .statistics
      let outcome := run surroundings words
      outcome.log = report.warnings ∧ outcome.complaint = none ∧
        (∀ isColoured time elapsed, outcome.errorOutput isColoured time elapsed =
          String.join (notes.filterMap (Finding.warningLine? isColoured time))) ∧
        ∀ time elapsed, EscapeFree time →
          (∀ path kind message, .fileRead path kind message ∈ notes → EscapeFree message) →
          outcome.errorText time elapsed = outcome.errorOutput false time elapsed := by
  refine ⟨Project.filter_isWarning_runEvents, ?_⟩
  intro surroundings words options project parsed checking found taken filtered report notes outcome
  have checked := (run_eq_check parsed checking found).trans (check_of_not_rejectsReport taken)
  have logged : outcome.log = report.warnings := by
    rw [← logFor_by_default filtered project]
    exact congrArg Outcome.log checked
  have silent : outcome.complaint = none := congrArg Outcome.complaint checked
  refine ⟨logged, silent, fun isColoured time elapsed => ?_, fun time elapsed stamped worded => ?_⟩
  · rw [Outcome.errorOutput, Outcome.complaintText, logged, silent, map_line_warnings]
    exact String.append_empty
  · refine Outcome.errorText_eq fun event called => ?_
    rw [logged] at called
    obtain ⟨check, path, kind, message, rfl, noted⟩ := exists_note_of_mem_warnings called
    exact Log.Event.escapeFree_skipped stamped (worded path kind message noted) elapsed check path

/-- A layout of four sources, one of them not marked for the statistics. -/
def mixedLayout : Layout :=
  ⟨"m", ["x"], [], [⟨"a", true, true⟩, ⟨"b", true, false⟩, ⟨"c", true, true⟩, ⟨"d", true, true⟩]⟩

/-- A project of a source that is no UTF-8, one that cannot be opened, and one with an import that
is out of place, with a directory for a manifest. The fourth source is missing. -/
def mixed : Surroundings :=
  describing mixedLayout fun path =>
    if path = "p/a" then .ok (.file [0x61, 0xE9, 0x0A])
    else if path = "p/b" then .ok (.locked .permissionDenied)
    else if path = "p/c" then .ok (.file (Text.Utf8.encode "import 'y'"))
    else if path = "p/m" then .ok .directory
    else .error .notFound

/-- Of all that is wrong with a project, the two sources that cannot be read are warned of, and the
one with both marks twice. -/
theorem warnings_of_run_unreadable :
    let words := ["--root-dir", "p", "--layout", "l"]
    let undecoded := "p/a is not valid UTF-8: invalid utf-8 sequence of 1 bytes from index 1"
    let unopened := "failed to read p/b: Permission denied (os error 13)"
    let line (file error : String) : String := String.join
      ["\x1b[2m", "now", "\x1b[0m", " ", "\x1b[33m", " WARN", "\x1b[0m", " ",
        "skipping unreadable source",
        " ", "\x1b[3m", "file", "\x1b[0m", "\x1b[2m", "=", "\x1b[0m", file,
        " ", "\x1b[3m", "error", "\x1b[0m", "\x1b[2m", "=", "\x1b[0m", error, "\n"]
    (run mixed words).log = [.skipped .imports "a" undecoded, .skipped .imports "b" unopened,
        .skipped .statistics "a" undecoded] ∧
      (run mixed words).errorOutput true "now" "0ms" =
        String.join [line "\"a\"" undecoded, line "\"b\"" unopened, line "\"a\"" undecoded] ∧
      (run mixed words).errorText "now" "0ms" =
        (run mixed words).errorOutput false "now" "0ms" := by
  intro words undecoded unopened line
  let options : Options := ⟨some "p", some "l", .text, false, false⟩
  let project : Project := ⟨"p", mixedLayout⟩
  have parsed : CommandLine.parse words = .ok (.run options) := rfl
  have found : mixed.IsProject options project := isProject_describing (by decide) _
  have taken : ¬mixed.RejectsReport options project := Terminal.Sink.not_rejects_unlimited _
  obtain ⟨logged, -, lines, bare⟩ :=
    warnings_of_run.2 mixed _ options project parsed rfl found taken rfl
  have imports : (project.run mixed.disk).findingsOf .imports =
      [.fileRead "a" .decode undecoded, .fileRead "b" .io unopened, .malformedImport "c" "y"] := by
    decide +kernel
  have statistics : (project.run mixed.disk).findingsOf .statistics =
      [.fileRead "a" .decode undecoded] := by
    decide +kernel
  refine ⟨logged.trans ?_, (lines true "now" "0ms").trans ?_, bare "now" "0ms" ?_ ?_⟩
  · rw [Report.warnings, imports, statistics]
    rfl
  · have first : Text.quoted "a" = "\"a\"" := by decide +kernel
    have second : Text.quoted "b" = "\"b\"" := by decide +kernel
    rw [imports, statistics]
    simp only [List.cons_append, List.nil_append, List.filterMap_cons, List.filterMap_nil,
      Finding.warningLine?, first, second]
    rfl
  · exact escapeFree_ofList (by decide)
  · intro path kind message noted
    rw [imports, statistics] at noted
    simp only [List.cons_append, List.nil_append, List.mem_cons, Finding.fileRead.injEq,
      List.not_mem_nil, or_false, reduceCtorEq, false_or] at noted
    rcases noted with ⟨-, -, rfl⟩ | ⟨-, -, rfl⟩ | ⟨-, -, rfl⟩ <;>
      exact escapeFree_ofList (by decide)

end Program

end Preflight
