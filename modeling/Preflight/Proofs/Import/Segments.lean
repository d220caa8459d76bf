import Preflight.Proofs.Import.Directive

/-!
Import directives read off the segments of a text.

The quotes of either kind cut a text into segments. A directive takes one whole segment for its
target: the segment in front ends in the opening of a directive, and there is one more behind. So an
automaton that goes through the segments once, and looks at the end of one and at whether the next
is empty, finds the same targets as the scan, which tries every character.
-/

namespace Preflight.Import

/-! ## The automaton -/

/-- Whether the end of a segment is the opening of a directive. -/
def OpensDirective (segment : List Char) : Prop :=
  ∃ opening, opening <:+ segment ∧ IsOpening opening

theorem opensDirective_cons_iff {c : Char} {segment : List Char} :
    OpensDirective (c :: segment) ↔ IsOpening (c :: segment) ∨ OpensDirective segment := by
  simp only [OpensDirective, List.suffix_cons_iff, or_and_right, exists_or, exists_eq_left]

theorem not_opensDirective_nil : ¬OpensDirective [] := by
  rintro ⟨opening, ends, opens⟩
  rw [List.suffix_nil.1 ends] at opens
  exact absurd opens (by decide)

instance decidableOpensDirective : DecidablePred OpensDirective
  | [] => isFalse not_opensDirective_nil
  | _ :: segment =>
      have := decidableOpensDirective segment
      decidable_of_iff' _ opensDirective_cons_iff

/-- The targets that the automaton finds in the segments from some place on. A target with an
opening in front and a segment behind is recorded, and the automaton goes on at the segment behind.
From any other segment it goes on at the next one. -/
def segmentTargets : List (List Char) → List (List Char)
  | segment :: target :: behind :: rest =>
      if OpensDirective segment ∧ target ≠ [] then target :: segmentTargets (behind :: rest)
      else segmentTargets (target :: behind :: rest)
  | _ => []

/-- The segments of a text: what is in front of the first quote, between each two and behind the
last. -/
def segments (text : List Char) : List (List Char) := text.splitOnP isQuote

/-! ## Segments -/

theorem segments_of_quoteFree {text : List Char} (free : QuoteFree text) :
    segments text = [text] :=
  List.splitOnP_eq_singleton free

theorem segments_append_quote {quote : Char} (cuts : isQuote quote = true)
    (front rest : List Char) :
    segments (front ++ quote :: rest) = segments front ++ segments rest :=
  List.splitOnP_append_cons front rest cuts

theorem segments_cons {c : Char} (free : isQuote c = false) (rest : List Char) :
    segments (c :: rest) = (segments rest).modifyHead (c :: ·) := by
  unfold segments
  rw [List.splitOnP_cons_eq_if_modifyHead, if_neg (by simp [free])]

theorem exists_cons_segments (text : List Char) :
    ∃ segment others, segments text = segment :: others :=
  List.exists_cons_of_ne_nil (List.splitOnP_ne_nil isQuote text)

/-- The first segment of a text is all of it, or there is a quote behind it and the other segments
are those of the rest. -/
theorem cases_of_segments {text segment : List Char} {others : List (List Char)}
    (cut : segments text = segment :: others) :
    QuoteFree segment ∧
      (others = [] ∧ text = segment ∨
        ∃ quote rest, isQuote quote = true ∧ text = segment ++ quote :: rest ∧
          segments rest = others) := by
  induction text generalizing segment with
  | nil =>
    obtain ⟨rfl, rfl⟩ := List.cons.inj cut
    exact ⟨fun _ listed => absurd listed List.not_mem_nil, .inl ⟨rfl, rfl⟩⟩
  | cons c text ih =>
    cases quoted : isQuote c with
    | true =>
      have apart : segments (c :: text) = [] :: segments text :=
        segments_append_quote quoted [] text
      obtain ⟨rfl, rfl⟩ := List.cons.inj (apart.symm.trans cut)
      exact ⟨fun _ listed => absurd listed List.not_mem_nil, .inr ⟨c, text, quoted, rfl, rfl⟩⟩
    | false =>
      obtain ⟨first, rest, later⟩ := exists_cons_segments text
      rw [segments_cons quoted, later, List.modifyHead_cons] at cut
      obtain ⟨rfl, rfl⟩ := List.cons.inj cut
      obtain ⟨free, ends⟩ := ih later
      refine ⟨List.forall_mem_cons.2 ⟨quoted, free⟩, ?_⟩
      rcases ends with ⟨rfl, rfl⟩ | ⟨quote, behind, cuts, rfl, others⟩
      · exact .inl ⟨rfl, rfl⟩
      · exact .inr ⟨quote, behind, cuts, rfl, others⟩

theorem IsOpening.quoteFree {opening : List Char} (opens : IsOpening opening) :
    QuoteFree opening := by
  obtain ⟨blanks, rfl, -, all⟩ := opens
  intro c listed
  rcases List.mem_append.1 listed with letter | blank
  · exact (by decide : QuoteFree keyword) c letter
  · cases quoted : isQuote c with
    | false => rfl
    | true => exact absurd (all c blank) (by simp [isBlank_eq_false_of_isQuote quoted])

/-! ## The automaton and the scan -/

/-- A segment that is not in front of a target is passed over. -/
theorem segmentTargets_cons {segment : List Char} {others : List (List Char)}
    (passed : ∀ target behind rest, others = target :: behind :: rest →
      ¬(OpensDirective segment ∧ target ≠ [])) :
    segmentTargets (segment :: others) = segmentTargets others := by
  rcases others with _ | ⟨target, _ | ⟨behind, rest⟩⟩
  · rfl
  · rfl
  · rw [segmentTargets, if_neg (passed target behind rest rfl)]

/-- The segment behind the opening of a directive is a target, unless it is empty. -/
theorem segmentTargets_target {segment target behind : List Char} (rest : List (List Char))
    (opens : OpensDirective segment) (named : target ≠ []) :
    segmentTargets (segment :: target :: behind :: rest) =
      target :: segmentTargets (behind :: rest) := by
  rw [segmentTargets, if_pos ⟨opens, named⟩]

/-- A directive behind a gap is one target of the automaton. -/
theorem segmentTargets_append {gap target directive : List Char} (free : QuoteFree gap)
    (spelled : Spelling target directive) (after : List Char) :
    segmentTargets (segments (gap ++ (directive ++ after))) =
      target :: segmentTargets (segments after) := by
  cases spelled with
  | @mk opening quote closing opens begins named quoteless ends =>
    have parts : gap ++ (opening ++ quote :: (target ++ [closing]) ++ after) =
        gap ++ opening ++ quote :: (target ++ closing :: after) := by
      simp only [List.append_assoc, List.cons_append, List.nil_append]
    have front : QuoteFree (gap ++ opening) := fun c listed =>
      (List.mem_append.1 listed).elim (free c) (opens.quoteFree c)
    obtain ⟨behind, rest, later⟩ := exists_cons_segments after
    rw [parts, segments_append_quote begins, segments_append_quote ends,
      segments_of_quoteFree front, segments_of_quoteFree quoteless, later]
    exact segmentTargets_target rest ⟨opening, List.suffix_append gap opening, opens⟩ named

/-- Where no directive begins, one character more or less in front makes no difference to the
automaton. -/
theorem segmentTargets_segments_cons {c : Char} {rest : List Char}
    (none : directive? (c :: rest) = none) :
    segmentTargets (segments (c :: rest)) = segmentTargets (segments rest) := by
  cases quoted : isQuote c with
  | true =>
    have apart : segments (c :: rest) = [] :: segments rest := segments_append_quote quoted [] rest
    rw [apart]
    exact segmentTargets_cons fun _ _ _ _ opens => not_opensDirective_nil opens.1
  | false =>
    obtain ⟨segment, others, cut⟩ := exists_cons_segments rest
    rw [segments_cons quoted, cut, List.modifyHead_cons]
    rcases others with _ | ⟨target, _ | ⟨behind, others⟩⟩
    · rfl
    · rfl
    · by_cases opens : OpensDirective segment ∧ target ≠ []
      · rw [segmentTargets_target others opens.1 opens.2,
          segmentTargets_target others (opensDirective_cons_iff.2 (.inr opens.1)) opens.2]
      · rw [segmentTargets, segmentTargets, if_neg opens, if_neg]
        rintro ⟨longer, named⟩
        rcases opensDirective_cons_iff.1 longer with opening | within
        · -- The opening stands here with a target behind it, so a directive begins here.
          obtain ⟨-, ⟨last, -⟩ | ⟨quote, after, begins, rfl, later⟩⟩ := cases_of_segments cut
          · cases last
          obtain ⟨free, ⟨last, -⟩ | ⟨closing, after, ends, rfl, -⟩⟩ := cases_of_segments later
          · cases last
          refine ne_append_of_directive?_eq_none none (.mk opening begins named free ends) after ?_
          simp only [List.append_assoc, List.cons_append, List.nil_append]
        · exact opens ⟨within, named⟩

/-- The automaton and the scan find the same targets. -/
theorem targetsFrom_eq_segmentTargets (text : List Char) :
    targetsFrom 0 text = segmentTargets (segments text) := by
  induction text using scan_induction with
  | nil => rfl
  | skip c rest none ih => rw [targetsFrom_cons none, segmentTargets_segments_cons none, ih]
  | found target directive after spelled ih =>
    have nothing : QuoteFree [] := fun _ listed => absurd listed List.not_mem_nil
    have next := segmentTargets_append nothing spelled after
    rw [List.nil_append] at next
    rw [targetsFrom_append spelled, next, ih]

/-! ## Texts made of directives -/

/-- The texts that are made of gaps without quotes and of directives with some targets, in turn. -/
inductive Interleaved : List Char → List (List Char) → Prop
  | gap {gap : List Char} (free : QuoteFree gap) : Interleaved gap []
  | directive {gap target directive rest : List Char} {targets : List (List Char)}
      (free : QuoteFree gap) (spelled : Spelling target directive)
      (others : Interleaved rest targets) :
      Interleaved (gap ++ (directive ++ rest)) (target :: targets)

/-- The automaton finds the targets of a text made of directives. -/
theorem Interleaved.segmentTargets_eq {text : List Char} {targets : List (List Char)}
    (made : Interleaved text targets) : segmentTargets (segments text) = targets := by
  induction made with
  | gap free =>
    rw [segments_of_quoteFree free]
    rfl
  | directive free spelled others ih => rw [segmentTargets_append free spelled, ih]

/-- The import targets of a text are those that one pass over its segments finds. So in a text made
of directives, with gaps between them that hold no quotes, they are the targets of the directives.
-/
theorem targets_eq_segmentTargets :
    (∀ text : String,
      targets text = (segmentTargets (segments text.toList)).map String.ofList) ∧
    ∀ (text : String) (made : List (List Char)), Interleaved text.toList made →
      targets text = made.map String.ofList := by
  have pass (text : String) :
      targets text = (segmentTargets (segments text.toList)).map String.ofList := by
    unfold targets
    rw [targetsFrom_eq_segmentTargets]
  refine ⟨pass, fun text made interleaved => ?_⟩
  rw [pass, interleaved.segmentTargets_eq]

/-- A text with stray quotes, an empty target and a closing quote that opens no directive; and a
text made of two directives, with a line break in one target and a wide blank in front of the other.
-/
theorem targets_eq_segmentTargets_quotes :
    targets "importimport ''import \"a'import 'import \"b" = ["a", "import "] ∧
    Interleaved "x;import\n'a\nb\";import\u3000\"c'".toList [['a', '\n', 'b'], ['c']] ∧
    targets "x;import\n'a\nb\";import\u3000\"c'" = ["a\nb", "c"] := by
  have opening (blank : Char) (blanks : Text.isBlank blank = true) :
      IsOpening (keyword ++ [blank]) :=
    ⟨[blank], rfl, List.cons_ne_nil _ _, List.forall_mem_singleton.2 blanks⟩
  have made : Interleaved "x;import\n'a\nb\";import\u3000\"c'".toList
      [['a', '\n', 'b'], ['c']] := by
    have first : Spelling ['a', '\n', 'b'] _ :=
      .mk (opening '\n' (by decide)) (by decide : isQuote '\'' = true) (by decide) (by decide)
        (by decide : isQuote '"' = true)
    have second : Spelling ['c'] _ :=
      .mk (opening '\u3000' (by decide)) (by decide : isQuote '"' = true) (by decide) (by decide)
        (by decide : isQuote '\'' = true)
    exact .directive (by decide : QuoteFree ['x', ';']) first
      (.directive (by decide : QuoteFree [';']) second (.gap (by decide : QuoteFree [])))
  refine ⟨?_, made, targets_eq_segmentTargets.2 _ _ made⟩
  rw [targets_eq_segmentTargets.1]
  decide

end Preflight.Import
