import Mathlib.Data.List.Sort
import Preflight.Proofs.Import.Segments
import Preflight.Proofs.Import.Selection

/-!
Import directives of two texts that are put together.

A directive that is found only in the whole lies across the seam, so the front ends in the beginning
of a directive. Such a beginning holds one quote at most and no whole directive, so it is part of
what the scan leaves behind the last directive it finds in the front. Where this does not end in
the beginning of a directive, the two texts are scanned as if each stood alone.
-/

namespace Preflight.Import

/-! ## Beginnings of directives -/

/-- The texts that begin a directive and do not end it: a beginning of the keyword, the keyword and
blanks, or an opening and a target that is not closed. -/
inductive IsUnfinished : List Char → Prop
  | word {letters : List Char} (given : letters ≠ []) (begins : letters <+: keyword) :
    IsUnfinished letters
  | blanks {blanks : List Char} (all : ∀ c ∈ blanks, Text.isBlank c = true) :
    IsUnfinished (keyword ++ blanks)
  | target {opening target : List Char} {quote : Char} (opens : IsOpening opening)
    (begins : isQuote quote = true) (free : QuoteFree target) :
    IsUnfinished (opening ++ quote :: target)

/-- Whatever is unfinished can be finished. -/
theorem IsUnfinished.exists_spelling {text : List Char} (unfinished : IsUnfinished text) :
    ∃ target more, more ≠ [] ∧ Spelling target (text ++ more) := by
  have named {opening : List Char} (opens : IsOpening opening) :
      Spelling ['a'] (opening ++ '"' :: (['a'] ++ ['"'])) :=
    .mk opens (by decide) (by decide) (by decide) (by decide)
  cases unfinished with
  | word given begins =>
    obtain ⟨rest, whole⟩ := begins
    have opens : IsOpening (keyword ++ [' ']) := by decide
    have spelled := named opens
    rw [← whole, List.append_assoc, List.append_assoc] at spelled
    exact ⟨_, _, by simp, spelled⟩
  | @blanks blanks all =>
    have opens : IsOpening (keyword ++ (blanks ++ [' '])) := by
      refine ⟨_, rfl, by simp, fun c listed => ?_⟩
      rcases List.mem_append.1 listed with blank | space
      · exact all c blank
      · rw [List.mem_singleton.1 space]
        decide
    have spelled := named opens
    rw [← List.append_assoc keyword, List.append_assoc] at spelled
    exact ⟨_, _, by simp, spelled⟩
  | @target opening target quote opens begins free =>
    have longer : QuoteFree (target ++ ['a']) := by
      intro c listed
      rcases List.mem_append.1 listed with inside | last
      · exact free c inside
      · rw [List.mem_singleton.1 last]
        decide
    have spelled : Spelling (target ++ ['a']) (opening ++ quote :: (target ++ ['a'] ++ ['"'])) :=
      .mk opens begins (by simp) longer (by decide)
    refine ⟨target ++ ['a'], ['a', '"'], by simp, ?_⟩
    simpa only [List.append_assoc, List.cons_append, List.nil_append] using spelled

/-- The proper beginnings of an opening are unfinished. -/
theorem isUnfinished_of_isOpening {text more : List Char} (given : text ≠ [])
    (opens : IsOpening (text ++ more)) : IsUnfinished text := by
  obtain ⟨blanks, parts, -, all⟩ := opens
  rcases List.append_eq_append_iff.1 parts with ⟨rest, word, -⟩ | ⟨front, rfl, same⟩
  · exact .word given ⟨rest, word.symm⟩
  · rw [same] at all
    exact .blanks fun c listed => all c (List.mem_append_left more listed)

/-- What begins a directive and does not end it is unfinished. -/
theorem isUnfinished_of_spelling {text target more : List Char} (given : text ≠ [])
    (short : more ≠ []) (spelled : Spelling target (text ++ more)) : IsUnfinished text := by
  generalize whole : text ++ more = directive at spelled
  cases spelled with
  | @mk opening quote closing opens begins named free ends =>
    rcases List.append_eq_append_iff.1 whole with ⟨rest, rfl, -⟩ | ⟨behind, rfl, same⟩
    · exact isUnfinished_of_isOpening given opens
    · cases behind with
      | nil =>
        rw [List.append_nil] at given ⊢
        rw [← List.append_nil opening] at opens
        exact isUnfinished_of_isOpening given opens
      | cons first inside =>
        obtain ⟨rfl, parts⟩ := List.cons.inj same
        have within : inside <+: target ++ [closing] := ⟨more, parts.symm⟩
        rcases List.prefix_concat_iff.1 within with all | ⟨rest, rfl⟩
        · rw [all] at parts
          exact absurd (List.self_eq_append_right.1 parts) short
        · exact .target opens begins fun c listed => free c (List.mem_append_left rest listed)

/-- The unfinished texts are the proper beginnings of directives, but for the empty text. -/
theorem isUnfinished_iff {text : List Char} :
    IsUnfinished text ↔
      text ≠ [] ∧ ∃ target more, more ≠ [] ∧ Spelling target (text ++ more) := by
  constructor
  · intro unfinished
    refine ⟨?_, unfinished.exists_spelling⟩
    cases unfinished <;> simp_all [keyword]
  · rintro ⟨given, target, more, short, spelled⟩
    exact isUnfinished_of_spelling given short spelled

/-- An unfinished text has no room for a directive: it holds one quote at most. -/
theorem IsUnfinished.targetsFrom_eq_nil {text : List Char} (unfinished : IsUnfinished text) :
    targetsFrom 0 text = [] := by
  have whole : QuoteFree keyword := by decide
  rw [targetsFrom_eq_segmentTargets]
  cases unfinished with
  | word given begins =>
    rw [segments_of_quoteFree fun c listed => whole c (begins.subset listed)]
    rfl
  | @blanks blanks all =>
    have free : QuoteFree (keyword ++ blanks) := by
      by_cases bare : blanks = []
      · rwa [bare, List.append_nil]
      · exact IsOpening.quoteFree ⟨blanks, rfl, bare, all⟩
    rw [segments_of_quoteFree free]
    rfl
  | target opens begins free =>
    rw [segments_append_quote begins, segments_of_quoteFree opens.quoteFree,
      segments_of_quoteFree free]
    rfl

/-- A directive that begins with a text and is not found in it lies across its end. -/
theorem isUnfinished_of_directive?_append {text more : List Char} (given : text ≠ [])
    (absent : directive? text = none) (found : directive? (text ++ more) ≠ none) :
    IsUnfinished text := by
  obtain ⟨⟨target, after⟩, found⟩ := Option.ne_none_iff_exists'.1 found
  obtain ⟨directive, spelled, parts⟩ := exists_spelling_of_directive? found
  rcases List.append_eq_append_iff.1 parts with ⟨rest, rfl, -⟩ | ⟨rest, rfl, -⟩
  · apply isUnfinished_of_spelling given _ spelled
    rintro rfl
    rw [List.append_nil] at spelled
    exact ne_append_of_directive?_eq_none absent spelled [] (List.append_nil text).symm
  · exact (ne_append_of_directive?_eq_none absent spelled rest rfl).elim

/-! ## What the scan leaves behind -/

/-- What is behind the last directive of a text, if its first `inside` characters belong to one
already found and `left` is what is behind the last one so far. -/
def remainderFrom (left : List Char) : Nat → List Char → List Char
  | _, [] => left
  | inside + 1, _ :: rest => remainderFrom left inside rest
  | 0, c :: rest =>
      match directive? (c :: rest) with
      | some (_, after) => remainderFrom after (rest.length - after.length) rest
      | none => remainderFrom left 0 rest

/-- What is behind the last directive that the scan finds in a text: all of it if there is none. -/
def remainder (text : List Char) : List Char := remainderFrom text 0 text

theorem remainderFrom_length_append (left front rest : List Char) :
    remainderFrom left front.length (front ++ rest) = remainderFrom left 0 rest := by
  induction front with
  | nil => rfl
  | cons c front ih => exact ih

/-- Where no directive begins nothing is left behind. -/
theorem remainderFrom_cons (left : List Char) {c : Char} {rest : List Char}
    (absent : directive? (c :: rest) = none) :
    remainderFrom left 0 (c :: rest) = remainderFrom left 0 rest := by
  rw [remainderFrom, absent]

/-- Behind a directive the scan starts afresh. -/
theorem remainderFrom_append (left : List Char) {target directive : List Char}
    (spelled : Spelling target directive) (after : List Char) :
    remainderFrom left 0 (directive ++ after) = remainder after := by
  have found := directive?_append spelled after
  obtain ⟨c, others, rfl⟩ := List.exists_cons_of_length_pos spelled.length_pos
  rw [List.cons_append] at found
  rw [List.cons_append, remainderFrom, found]
  have passed : (others ++ after).length - after.length = others.length := by
    rw [List.length_append, Nat.add_sub_cancel]
  simp only [passed, remainderFrom_length_append]
  rfl

/-- A text without directives is left behind as it was. -/
theorem remainderFrom_of_targetsFrom_eq_nil (left : List Char) {text : List Char}
    (barren : targetsFrom 0 text = []) : remainderFrom left 0 text = left := by
  induction text using scan_induction with
  | nil => rfl
  | skip c rest absent ih =>
    rw [targetsFrom_cons absent] at barren
    rw [remainderFrom_cons left absent, ih barren]
  | found target directive after spelled =>
    rw [targetsFrom_append spelled] at barren
    cases barren

/-- Where the last of some occurrences stops, and `place` if there is none. -/
def lastStop (place : Nat) : List Occurrence → Nat
  | [] => place
  | occurrence :: others => lastStop occurrence.stop others

/-- What the scan leaves is behind the last directive of a selection. -/
theorem exists_remainderFrom_eq (front text : List Char) :
    ∃ found, SelectsFrom front.length (front ++ text) found ∧
      ∀ place, remainderFrom ((front ++ text).drop place) 0 text =
        (front ++ text).drop (lastStop place found) := by
  induction text using scan_induction generalizing front with
  | nil =>
    obtain ⟨found, selects, same⟩ := exists_selectsFrom front []
    have none : found = [] := List.map_eq_nil_iff.1 same.symm
    subst none
    exact ⟨[], selects, fun _ => rfl⟩
  | skip c rest absent ih =>
    obtain ⟨found, selects, left⟩ := ih (front ++ [c])
    refine ⟨found, selects.skip absent, fun place => ?_⟩
    rw [remainderFrom_cons _ absent]
    simpa only [List.append_assoc, List.singleton_append] using left place
  | found target directive after spelled ih =>
    obtain ⟨found, selects, left⟩ := ih (front ++ directive)
    refine ⟨_, selects.cons spelled, fun place => ?_⟩
    have behind := left (front ++ directive).length
    rw [List.drop_left, List.append_assoc, List.length_append] at behind
    rw [remainderFrom_append _ spelled]
    exact behind

namespace Occurrence

/-- Whether one occurrence begins in front of another. -/
def Precedes (occurrence other : Occurrence) : Prop := occurrence.start < other.start

instance : Std.Irrefl Precedes := ⟨fun _ => Nat.lt_irrefl _⟩

instance : Std.Antisymm Precedes :=
  ⟨fun _ _ before behind => absurd behind (Nat.lt_asymm before)⟩

end Occurrence

theorem SelectsFrom.pairwise_precedes {place : Nat} {text : List Char} {found : List Occurrence}
    (selects : SelectsFrom place text found) : found.Pairwise Occurrence.Precedes :=
  selects.ordered.imp_of_mem fun listed _ before =>
    Nat.lt_of_lt_of_le (selects.stands _ listed).1.start_lt_stop before

/-- A text has only one list of directives that the scan could select. -/
theorem SelectsFrom.unique {text : List Char} {found other : List Occurrence}
    (selects : SelectsFrom 0 text found) (selects' : SelectsFrom 0 text other) :
    found = other := by
  have same := selects.isSelection.unique selects'.isSelection
  exact selects.pairwise_precedes.eq_of_mem_iff selects'.pairwise_precedes (Set.ext_iff.1 same)

/-- A text has one selection. Its targets are found, and what is behind it is left. -/
theorem exists_unique_selection (text : List Char) :
    ∃ found, SelectsFrom 0 text found ∧ (∀ other, SelectsFrom 0 text other → other = found) ∧
      targetsFrom 0 text = found.map (·.target) ∧
      remainder text = text.drop (lastStop 0 found) := by
  obtain ⟨found, selects, same⟩ := exists_selectsFrom [] text
  obtain ⟨also, selects', left⟩ := exists_remainderFrom_eq [] text
  rw [selects'.unique selects] at left
  exact ⟨found, selects, fun other again => again.unique selects, same, left 0⟩

/-! ## Texts put together -/

/-- Whether no ending of a text begins a directive that goes on behind it. -/
def IsSettled (text : List Char) : Prop := ∀ ending, ending <:+ text → ¬IsUnfinished ending

theorem targetsFrom_append_of_settled {left text : List Char} (within : text <:+ left)
    (settled : IsSettled (remainderFrom left 0 text)) (more : List Char) :
    targetsFrom 0 (text ++ more) = targetsFrom 0 text ++ targetsFrom 0 more := by
  induction text using scan_induction generalizing left with
  | nil => rfl
  | skip c rest absent ih =>
    have still : directive? (c :: (rest ++ more)) = none := by
      by_contra across
      have unfinished := isUnfinished_of_directive?_append (List.cons_ne_nil c rest) absent across
      rw [remainderFrom_of_targetsFrom_eq_nil left unfinished.targetsFrom_eq_nil] at settled
      exact settled _ within unfinished
    rw [remainderFrom_cons left absent] at settled
    rw [List.cons_append, targetsFrom_cons still, targetsFrom_cons absent]
    exact ih ((List.suffix_cons c rest).trans within) settled
  | found target directive after spelled ih =>
    rw [remainderFrom_append left spelled] at settled
    rw [List.append_assoc, targetsFrom_append spelled, targetsFrom_append spelled,
      ih (List.suffix_refl after) settled, List.cons_append]

/-- A text without the first letter of the keyword is settled. -/
theorem isSettled_of_notMem {text : List Char} (absent : 'i' ∉ text) : IsSettled text := by
  intro ending ends unfinished
  have listed : 'i' ∈ ending := by
    cases unfinished with
    | @word letters given begins =>
      obtain ⟨rest, whole⟩ := begins
      obtain ⟨first, others, rfl⟩ := List.exists_cons_of_ne_nil given
      rw [(List.cons.inj whole).1]
      exact List.mem_cons_self
    | blanks all => exact List.mem_append_left _ (by decide)
    | target opens begins free =>
      obtain ⟨blanks, rfl, -, -⟩ := opens
      simp [keyword]
  exact absent (ends.subset listed)

/-- The import targets of a text are those of the only selection of its directives, and what the
scan leaves is the part behind the last one of these. Where no ending of that part is a proper
beginning of a directive, the targets of the text with more behind it are its own, and then those of
what is behind. -/
theorem targets_append_of_settled :
    (∀ text : String, ∃ found, SelectsFrom 0 text.toList found ∧
      (∀ other, SelectsFrom 0 text.toList other → other = found) ∧
      targets text = found.map (fun occurrence => String.ofList occurrence.target) ∧
      remainder text.toList = text.toList.drop (lastStop 0 found)) ∧
    (∀ beginning, IsUnfinished beginning ↔
      beginning ≠ [] ∧ ∃ target more, more ≠ [] ∧ Spelling target (beginning ++ more)) ∧
    ∀ text more : String, IsSettled (remainder text.toList) →
      targets (text ++ more) = targets text ++ targets more := by
  refine ⟨fun text => ?_, fun _ => isUnfinished_iff, fun text more settled => ?_⟩
  · obtain ⟨found, selects, unique, same, left⟩ := exists_unique_selection text.toList
    refine ⟨found, selects, unique, ?_, left⟩
    unfold targets
    rw [same, List.map_map]
    rfl
  · unfold targets
    rw [String.toList_append, targetsFrom_append_of_settled (List.suffix_refl _) settled,
      List.map_append]

/-- A front with stray quotes, and a directive behind it. -/
theorem targets_append_of_settled_quotes :
    let front := "it's import 'a'; don't"
    IsSettled (remainder front.toList) ∧
      targets (front ++ "'import \"b\"") = ["a", "b"] := by
  intro front
  have left : remainder front.toList = "; don't".toList := by decide
  have settled : IsSettled (remainder front.toList) := by
    rw [left]
    exact isSettled_of_notMem (by decide)
  refine ⟨settled, ?_⟩
  rw [targets_append_of_settled.2.2 front _ settled]
  decide

end Preflight.Import
