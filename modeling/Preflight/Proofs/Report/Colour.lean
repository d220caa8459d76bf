import Preflight.Proofs.Report.Render
import Preflight.Proofs.Report.Wording
import Preflight.Proofs.Terminal.Codes

/-!
The two text renderings of a report, with colour and without.

Both are made of the same spans, so they differ in codes alone as long as no name and no finding
brings an escape character of its own. The coloured one is never the shorter of the two, which a
sink with little room can tell.
-/

namespace Preflight

open Terminal (Coloured EscapeFree Sink Span Style escapeFree_append escapeFree_ofList
  escapeFree_toString)

/-- Whether a finding holds no escape character. -/
def Finding.IsPlain (finding : Finding) : Prop :=
  ∀ text ∈ finding.strings, EscapeFree text

/-- Whether the names of a report and the texts of its findings hold no escape character. -/
def Report.IsPlain (report : Report) : Prop :=
  ∀ result ∈ report.results,
    EscapeFree result.name ∧ ∀ finding ∈ result.findings, finding.IsPlain

theorem Finding.escapeFree_describe {finding : Finding} (plain : finding.IsPlain) :
    EscapeFree finding.describe :=
  notMem_describe (by decide) plain

namespace Report

/-! ## The spans of a report -/

theorem clean_plain {text : String} (free : EscapeFree text) : (Span.plain text).Clean :=
  ⟨fun _ named => (by cases named), free⟩

theorem clean_styled {style : Style} {text : String} (listed : style ∈ Style.all)
    (free : EscapeFree text) : (Span.styled style text).Clean :=
  ⟨fun _ named => Option.some.inj named ▸ listed, free⟩

theorem clean_lineBreak : (Span.plain "\n").Clean :=
  clean_plain (escapeFree_ofList (by decide))

theorem escapeFree_status (result : CheckResult) : EscapeFree (status result) :=
  notMem_status (by decide) (by decide) result

theorem clean_headSpans {result : CheckResult} (free : EscapeFree result.name) :
    ∀ span ∈ headSpans result, span.Clean := by
  have listed : (if result.passed then Style.green else Style.red) ∈ Style.all := by
    split_ifs <;> decide
  have mark : EscapeFree (if result.passed then "✓" else "✗") := by
    split_ifs <;> exact escapeFree_ofList (by decide)
  have name : EscapeFree (" " ++ result.name ++ ": ") := by
    simp only [escapeFree_append]
    exact ⟨⟨escapeFree_ofList (by decide), free⟩, escapeFree_ofList (by decide)⟩
  simp only [headSpans, List.forall_mem_cons, List.not_mem_nil, false_implies, implies_true,
    and_true]
  exact ⟨clean_styled listed mark, clean_plain name, clean_styled listed (escapeFree_status result),
    clean_lineBreak⟩

theorem clean_findingSpans {finding : Finding} (plain : finding.IsPlain) :
    ∀ span ∈ findingSpans finding, span.Clean := by
  simp only [findingSpans, List.forall_mem_cons, List.not_mem_nil, false_implies, implies_true,
    and_true]
  exact ⟨clean_plain (escapeFree_ofList (by decide)),
    clean_styled (by decide) (Finding.escapeFree_describe plain), clean_lineBreak⟩

theorem clean_metricsSpans (metrics : Metrics) : ∀ span ∈ metricsSpans metrics, span.Clean := by
  have line {title : String} (free : EscapeFree title) (number : Nat) :
      (Span.plain (title ++ toString number ++ "\n")).Clean := by
    refine clean_plain ?_
    simp only [escapeFree_append]
    exact ⟨⟨free, escapeFree_toString number⟩, escapeFree_ofList (by decide)⟩
  simp only [metricsSpans, List.forall_mem_cons, List.not_mem_nil, false_implies, implies_true,
    and_true]
  exact ⟨line (escapeFree_ofList (by decide)) _, line (escapeFree_ofList (by decide)) _,
    line (escapeFree_ofList (by decide)) _⟩

theorem clean_resultSpans {result : CheckResult} (free : EscapeFree result.name)
    (plain : ∀ finding ∈ result.findings, finding.IsPlain) :
    ∀ span ∈ resultSpans result, span.Clean := by
  simp only [resultSpans, List.forall_mem_append]
  refine ⟨⟨clean_headSpans free, ?_⟩, ?_⟩
  · intro span there
    obtain ⟨finding, listed, also⟩ := List.mem_flatMap.1 there
    exact clean_findingSpans (plain finding listed) span also
  · cases result.metrics with
    | none => exact fun _ there => by cases there
    | some metrics => exact clean_metricsSpans metrics

theorem clean_stepSpans {steps : List String} (free : ∀ step ∈ steps, EscapeFree step)
    (first : Nat) : ∀ span ∈ stepSpans first steps, span.Clean := by
  induction steps generalizing first with
  | nil => exact fun _ there => by cases there
  | cons step steps ih =>
    obtain ⟨here, others⟩ := List.forall_mem_cons.1 free
    have line : EscapeFree ("  " ++ toString first ++ ". " ++ step ++ "\n") := by
      simp only [escapeFree_append]
      exact ⟨⟨⟨⟨escapeFree_ofList (by decide), escapeFree_toString first⟩,
        escapeFree_ofList (by decide)⟩, here⟩, escapeFree_ofList (by decide)⟩
    exact List.forall_mem_cons.2 ⟨clean_plain line, ih others (first + 1)⟩

theorem escapeFree_nextSteps : ∀ step ∈ nextSteps, EscapeFree step := by
  simp only [nextSteps, List.forall_mem_cons, List.not_mem_nil, false_implies, implies_true,
    and_true]
  exact ⟨escapeFree_ofList (by decide), escapeFree_ofList (by decide),
    escapeFree_ofList (by decide), escapeFree_ofList (by decide)⟩

theorem escapeFree_tally (report : Report) : EscapeFree report.tally := by
  simp only [tally, escapeFree_append]
  exact ⟨⟨⟨escapeFree_toString _, escapeFree_ofList (by decide)⟩, escapeFree_toString _⟩,
    escapeFree_ofList (by decide)⟩

theorem clean_verdictSpans (report : Report) : ∀ span ∈ verdictSpans report, span.Clean := by
  have tallied {after : String} (free : EscapeFree after) : EscapeFree (report.tally ++ after) :=
    escapeFree_append.2 ⟨report.escapeFree_tally, free⟩
  rw [verdictSpans]
  split_ifs
  · simp only [List.forall_mem_append, List.forall_mem_cons, List.not_mem_nil, false_implies,
      implies_true, and_true]
    exact ⟨⟨clean_styled (by decide) (tallied (escapeFree_ofList (by decide))), clean_lineBreak,
      clean_plain (escapeFree_ofList (by decide))⟩, clean_stepSpans escapeFree_nextSteps 1⟩
  · simp only [List.forall_mem_cons, List.not_mem_nil, false_implies, implies_true, and_true]
    exact ⟨clean_styled (by decide) (tallied (escapeFree_ofList (by decide))), clean_lineBreak⟩

/-- All that a report is written in is clean if its names and findings are. -/
theorem clean_spans {report : Report} (plain : report.IsPlain) :
    ∀ span ∈ report.spans, span.Clean := by
  have heading {text : String} (free : EscapeFree text) : (Span.styled .bold text).Clean :=
    clean_styled (by decide) free
  have tip : (Span.styled .dimmed installTip).Clean :=
    clean_styled (by decide) (escapeFree_ofList (by decide))
  have results : ∀ span ∈ report.results.flatMap resultSpans, span.Clean := by
    intro span there
    obtain ⟨result, listed, also⟩ := List.mem_flatMap.1 there
    exact clean_resultSpans (plain result listed).1 (plain result listed).2 span also
  simp only [spans, List.forall_mem_append, List.forall_mem_cons, List.not_mem_nil, false_implies,
    implies_true, and_true]
  exact ⟨⟨⟨⟨⟨heading (escapeFree_ofList (by decide)), clean_lineBreak⟩, results⟩,
    heading (escapeFree_ofList (by decide)), clean_lineBreak⟩, report.clean_verdictSpans⟩,
    clean_lineBreak, tip, clean_lineBreak⟩

/-! ## Two renderings -/

/-- The coloured rendering colours the plain one. -/
theorem coloured_render {report : Report} (plain : report.IsPlain) :
    Coloured (report.render .text true).toList (report.render .text false).toList :=
  Terminal.coloured_join (clean_spans plain)

/-- Without their codes both renderings have the bytes of the plain one. -/
theorem deleteCodeBytes_render {report : Report} (plain : report.IsPlain) (coloured : Bool) :
    Terminal.deleteCodeBytes (Text.Utf8.encode (report.render .text coloured)) =
      Text.Utf8.encode (report.render .text false) := by
  have colours := coloured_render plain
  cases coloured with
  | true => exact colours.deleteCodeBytes_eq
  | false => exact (Terminal.coloured_self colours.unmarked).deleteCodeBytes_eq

/-- The title of a report comes first, and in colour the code that opens it comes before. So the
coloured rendering takes at least that much more room. -/
theorem exists_encode_render (report : Report) :
    ∃ rest, Text.Utf8.encode (report.render .text true) =
        Text.Utf8.encode Style.bold.opening ++ rest ∧
      (Text.Utf8.encode Style.bold.opening).length ≤
        (Text.Utf8.encode (report.render .text false)).length ∧
      (Text.Utf8.encode (report.render .text false)).length ≤ rest.length := by
  let title := "\n=== Project Preflight ===\n"
  let later (coloured : Bool) := report.spans.tail.flatMap (·.pieces coloured)
  have plain : Text.Utf8.encode (report.render .text false) =
      Text.Utf8.encode title ++ Text.Utf8.encode (String.join (later false)) := by
    rw [Text.Utf8.encode_join]
    exact Text.Utf8.encode_join (title :: later false)
  have coloured : Text.Utf8.encode (report.render .text true) =
      Text.Utf8.encode Style.bold.opening ++ (Text.Utf8.encode title ++
        (Text.Utf8.encode Style.bold.closing ++ Text.Utf8.encode (String.join (later true)))) := by
    rw [Text.Utf8.encode_join (later true)]
    exact Text.Utf8.encode_join (Style.bold.opening :: title :: Style.bold.closing :: later true)
  have longer : (Text.Utf8.encode (String.join (later false))).length ≤
      (Text.Utf8.encode (String.join (later true))).length :=
    Terminal.length_encode_join_le report.spans.tail
  have short : (Text.Utf8.encode Style.bold.opening).length ≤ (Text.Utf8.encode title).length := by
    decide +kernel
  refine ⟨_, coloured, ?_, ?_⟩
  · rw [plain, List.length_append]
    omega
  · rw [plain]
    simp only [List.length_append]
    omega

/-- What fits of the coloured rendering where the plain one just fits is not all of the report. -/
theorem deleteCodeBytes_take_ne (report : Report) :
    Terminal.deleteCodeBytes ((Text.Utf8.encode (report.render .text true)).take
        (Text.Utf8.encode (report.render .text false)).length) ≠
      Text.Utf8.encode (report.render .text false) := by
  obtain ⟨rest, coloured, fits, -⟩ := report.exists_encode_render
  intro same
  have opened : Text.Utf8.encode Style.bold.opening ∈ Terminal.codes.map Text.Utf8.encode :=
    List.mem_map_of_mem (Terminal.Style.codes_mem _ (by decide)).1
  rw [coloured, List.take_append, List.take_of_length_le fits, Terminal.deleteCodeBytes,
    Terminal.marked_codeBytes.delete_append opened] at same
  have kept := Terminal.length_delete_le (Terminal.codes.map Text.Utf8.encode)
    (rest.take ((Text.Utf8.encode (report.render .text false)).length -
      (Text.Utf8.encode Style.bold.opening).length))
  have room : 0 < (Text.Utf8.encode Style.bold.opening).length := by decide
  rw [same, List.length_take] at kept
  omega

/-- Whether a sink has room for the plain text of a report and not for the coloured one. -/
def TooLongInColour (report : Report) (sink : Sink) : Prop :=
  ¬sink.Rejects (report.render .text false) ∧ sink.Rejects (report.render .text true)

/-- A sink that does not tell the renderings of a report apart rejects both or neither, since the
coloured one is never the shorter. -/
theorem rejects_cases (report : Report) (sink : Sink) :
    (∀ coloured, sink.Rejects (report.render .text coloured)) ∨
      (∀ coloured, ¬sink.Rejects (report.render .text coloured)) ∨
      report.TooLongInColour sink := by
  have longer (rejected : sink.Rejects (report.render .text false)) :
      sink.Rejects (report.render .text true) := by
    obtain ⟨room, limited, full⟩ := rejected
    exact ⟨room, limited, Nat.lt_of_lt_of_le full (Terminal.length_encode_join_le report.spans)⟩
  by_cases plain : sink.Rejects (report.render .text false)
  · exact .inl (Bool.forall_bool.2 ⟨plain, longer plain⟩)
  by_cases coloured : sink.Rejects (report.render .text true)
  · exact .inr (.inr ⟨plain, coloured⟩)
  · exact .inr (.inl (Bool.forall_bool.2 ⟨plain, coloured⟩))

/-- A sink that the plain rendering fills is too small for the coloured one. -/
theorem tooLongInColour_of_full (report : Report) (fault : AccessFault) :
    report.TooLongInColour
      ⟨some (Text.Utf8.encode (report.render .text false)).length, fault⟩ := by
  obtain ⟨rest, coloured, -, longer⟩ := report.exists_encode_render
  have code : 0 < (Text.Utf8.encode Style.bold.opening).length := by decide
  refine ⟨?_, _, rfl, ?_⟩
  · rintro ⟨room, limited, full⟩
    rw [← Option.some.inj limited] at full
    exact Nat.lt_irrefl _ full
  · rw [coloured, List.length_append]
    omega

end Report

end Preflight
