import Preflight.Proofs.Terminal.Portions
import Preflight.Report.Render

/-!
Rendering into a sink: all of the text of a report, or a fault.
-/

namespace Preflight.Report

open Terminal (Sink Written Offered offered_iff)

theorem renderInto_cases (sink : Sink) (format : Format) (coloured : Bool) (report : Report) :
    sink.Rejects (report.render format coloured) ∧
        (report.renderInto sink format coloured).fault = some sink.fault ∨
      ¬sink.Rejects (report.render format coloured) ∧
        report.renderInto sink format coloured =
          ⟨Text.Utf8.encode (report.render format coloured), none⟩ :=
  sink.write_cases (report.pieces format coloured)

/-- A sink that does not fail has taken the whole text. -/
theorem bytes_renderInto {sink : Sink} {format : Format} {coloured : Bool} {report : Report}
    (written : (report.renderInto sink format coloured).fault = none) :
    (report.renderInto sink format coloured).bytes =
      Text.Utf8.encode (report.render format coloured) := by
  rcases report.renderInto_cases sink format coloured with ⟨-, failed⟩ | ⟨-, taken⟩
  · rw [failed] at written
    cases written
  · rw [taken]

/-- Rendering into a sink with room for so many bytes writes the whole of the report if it fits, and
otherwise as much of its beginning as there is room for, and fails with the fault of the sink, which
is what is left of an error of the writer of JSON as well. A writer that takes the report in
portions, cut into chunks in any way, ends up with the same. -/
theorem renderInto_writes_what_fits (report : Report) (format : Format) (coloured : Bool)
    (room : Nat) (fault : AccessFault) :
    let full := Text.Utf8.encode (report.render format coloured)
    let written := report.renderInto ⟨some room, fault⟩ format coloured
    (full.length ≤ room → written = ⟨full, none⟩) ∧
      (room < full.length → written = ⟨full.take room, some fault⟩) ∧
      ∀ (chunks : List (List UInt8)) (outcome : Written), chunks.flatten = full →
        (Offered fault room chunks outcome ↔ outcome = written) := by
  intro full written
  have limited : written = .upTo fault room full :=
    Sink.write_of_room rfl (report.pieces format coloured)
  refine ⟨fun fits => ?_, fun long => ?_, fun chunks outcome cut => ?_⟩
  · rw [limited, Written.upTo_of_le fits]
  · rw [limited, Written.upTo_of_lt long]
  · rw [limited, ← cut]
    exact offered_iff

/-- A report that fits as JSON; and the same in colour, which does not, with the room and the first
of two chunks both at an end inside the check mark. -/
theorem renderInto_writes_what_fits_cut :
    let report : Report := ⟨[⟨"é", true, [], none⟩]⟩
    let full (format : Format) := Text.Utf8.encode (report.render format true)
    let fault : AccessFault := .other "disk full"
    (full .json).length ≤ 400 ∧
      report.renderInto ⟨some 400, fault⟩ .json true = ⟨full .json, none⟩ ∧
      42 < (full .text).length ∧
      report.renderInto ⟨some 42, fault⟩ .text true = ⟨(full .text).take 42, some fault⟩ ∧
      [(full .text).take 43, (full .text).drop 43].flatten = full .text ∧
      Offered fault 42 [(full .text).take 43, (full .text).drop 43]
        (report.renderInto ⟨some 42, fault⟩ .text true) := by
  intro report full fault
  have size (format : Format) : (full format).length =
      ((report.pieces format true).map fun piece => (Text.Utf8.encode piece).length).sum := by
    simp only [full, render, Text.Utf8.encode_join, List.length_flatMap]
  have fits : (full .json).length ≤ 400 := by
    rw [size]
    decide +kernel
  have long : 42 < (full .text).length := by
    rw [size]
    decide +kernel
  have cut : [(full .text).take 43, (full .text).drop 43].flatten = full .text := by
    rw [List.flatten_cons, List.flatten_singleton, List.take_append_drop]
  exact ⟨fits, (renderInto_writes_what_fits report .json true 400 fault).1 fits, long,
    (renderInto_writes_what_fits report .text true 42 fault).2.1 long, cut,
    ((renderInto_writes_what_fits report .text true 42 fault).2.2 _ _ cut).2 rfl⟩

end Preflight.Report
