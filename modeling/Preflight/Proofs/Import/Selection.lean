import Mathlib.Data.List.Pairwise
import Mathlib.Data.Set.Defs
import Preflight.Proofs.Import.Directive

/-!
Which of the import directives that are written in a text are found.

A directive can begin inside another, since a target may hold the beginning of one. The directives
that are found keep clear of each other, and every other one begins inside one of them. There is
only one way to select directives like that, so these conditions say all about the scan.
-/

namespace Preflight.Import

/-! ## Occurrences -/

/-- A place of a text where a directive may be written: where it begins, where it ends, and its
target. -/
@[ext]
structure Occurrence where
  start : Nat
  stop : Nat
  target : List Char
  deriving DecidableEq, Repr

namespace Occurrence

/-- Whether a directive is written in a text at just this place. -/
def StandsIn (occurrence : Occurrence) (text : List Char) : Prop :=
  ∃ front directive after, text = front ++ (directive ++ after) ∧
    Spelling occurrence.target directive ∧ occurrence.start = front.length ∧
    occurrence.stop = front.length + directive.length

/-- Whether one of two occurrences ends where the other begins, or before. -/
def KeepsClear (occurrence other : Occurrence) : Prop :=
  occurrence.stop ≤ other.start ∨ other.stop ≤ occurrence.start

instance : Std.Symm KeepsClear := ⟨fun _ _ => Or.symm⟩

/-- Whether an occurrence begins inside another one, and not where that one begins. -/
def BeginsInside (occurrence other : Occurrence) : Prop :=
  other.start < occurrence.start ∧ occurrence.start < other.stop

variable {occurrence other : Occurrence} {text : List Char}

theorem StandsIn.start_lt_stop (stands : occurrence.StandsIn text) :
    occurrence.start < occurrence.stop := by
  obtain ⟨front, directive, after, -, spelled, start, stop⟩ := stands
  have taken := spelled.length_pos
  omega

/-- What is written at the end of the front of a text is a directive at the beginning of the rest.
-/
theorem StandsIn.exists_spelling {front rest : List Char}
    (stands : occurrence.StandsIn (front ++ rest)) (start : occurrence.start = front.length) :
    ∃ directive after, rest = directive ++ after ∧ Spelling occurrence.target directive ∧
      occurrence.stop = front.length + directive.length := by
  obtain ⟨before, directive, after, parts, spelled, begins, ends⟩ := stands
  have length : front.length = before.length := start.symm.trans begins
  obtain ⟨rfl, rfl⟩ := List.append_inj parts length
  exact ⟨directive, after, rfl, spelled, ends⟩

/-- At one place no more than one directive is written. -/
theorem StandsIn.unique (stands : occurrence.StandsIn text) (stands' : other.StandsIn text)
    (start : occurrence.start = other.start) : occurrence = other := by
  obtain ⟨front, directive, after, rfl, spelled, begins, ends⟩ := stands
  obtain ⟨directive', after', parts, spelled', ends'⟩ :=
    stands'.exists_spelling (start.symm.trans begins)
  obtain ⟨target, rfl⟩ := spelled.unique spelled' parts
  exact Occurrence.ext start (ends.trans ends'.symm) target

end Occurrence

/-! ## What the scan selects -/

/-- Some occurrences that a text has from a place on: they keep clear of each other, in order, and
every other one begins inside one of them. -/
structure SelectsFrom (place : Nat) (text : List Char) (found : List Occurrence) : Prop where
  stands : ∀ occurrence ∈ found, occurrence.StandsIn text ∧ place ≤ occurrence.start
  ordered : found.Pairwise fun first second => first.stop ≤ second.start
  covers : ∀ occurrence : Occurrence, occurrence.StandsIn text → place ≤ occurrence.start →
    occurrence ∈ found ∨ ∃ other ∈ found, occurrence.BeginsInside other

namespace SelectsFrom

variable {front : List Char} {found : List Occurrence}

/-- A place where no directive begins has none to select. -/
theorem skip {c : Char} {rest : List Char} (none : directive? (c :: rest) = none)
    (selects : SelectsFrom (front ++ [c]).length (front ++ [c] ++ rest) found) :
    SelectsFrom front.length (front ++ c :: rest) found := by
  rw [List.append_assoc, List.singleton_append, List.length_append, List.length_singleton]
    at selects
  refine ⟨fun occurrence listed => ?_, selects.ordered, fun occurrence stands behind => ?_⟩
  · obtain ⟨stands, behind⟩ := selects.stands occurrence listed
    exact ⟨stands, Nat.le_of_succ_le behind⟩
  · have elsewhere : occurrence.start ≠ front.length := by
      intro start
      obtain ⟨directive, after, parts, spelled, -⟩ := stands.exists_spelling start
      exact ne_append_of_directive?_eq_none none spelled after parts
    exact selects.covers occurrence stands (by omega)

/-- A directive that is written at the place is selected, and no other one that begins inside. -/
theorem cons {target directive after : List Char} (spelled : Spelling target directive)
    (selects : SelectsFrom (front ++ directive).length (front ++ directive ++ after) found) :
    SelectsFrom front.length (front ++ (directive ++ after))
      (⟨front.length, front.length + directive.length, target⟩ :: found) := by
  rw [List.append_assoc, List.length_append] at selects
  have here : Occurrence.StandsIn ⟨front.length, front.length + directive.length, target⟩
      (front ++ (directive ++ after)) := ⟨front, directive, after, rfl, spelled, rfl, rfl⟩
  refine ⟨List.forall_mem_cons.2 ⟨⟨here, Nat.le_refl _⟩, fun occurrence listed => ?_⟩,
    List.pairwise_cons.2 ⟨fun occurrence listed => (selects.stands occurrence listed).2,
      selects.ordered⟩, fun occurrence stands behind => ?_⟩
  · obtain ⟨stands, behind⟩ := selects.stands occurrence listed
    exact ⟨stands, by omega⟩
  · rcases Nat.lt_or_ge occurrence.start (front.length + directive.length) with within | beyond
    · rcases Nat.eq_or_lt_of_le behind with start | inside
      · left
        rw [stands.unique here start.symm]
        exact List.mem_cons_self
      · exact .inr ⟨_, List.mem_cons_self, inside, within⟩
    · rcases selects.covers occurrence stands beyond with listed | ⟨other, listed, inside⟩
      · exact .inl (List.mem_cons_of_mem _ listed)
      · exact .inr ⟨other, List.mem_cons_of_mem _ listed, inside⟩

end SelectsFrom

/-- The scan finds the targets of a selection, whatever is in front of the text. -/
theorem exists_selectsFrom (front text : List Char) :
    ∃ found, SelectsFrom front.length (front ++ text) found ∧
      targetsFrom 0 text = found.map (·.target) := by
  induction text using scan_induction generalizing front with
  | nil =>
    refine ⟨[], ⟨fun _ listed => absurd listed List.not_mem_nil, .nil, ?_⟩, rfl⟩
    intro occurrence stands behind
    obtain ⟨before, directive, after, parts, spelled, start, -⟩ := stands
    have length := congrArg List.length parts
    have taken := spelled.length_pos
    simp only [List.length_append, List.length_nil] at length
    omega
  | skip c rest none ih =>
    obtain ⟨found, selects, same⟩ := ih (front ++ [c])
    exact ⟨found, selects.skip none, (targetsFrom_cons none).trans same⟩
  | found target directive after spelled ih =>
    obtain ⟨found, selects, same⟩ := ih (front ++ directive)
    refine ⟨_, selects.cons spelled, ?_⟩
    rw [targetsFrom_append spelled, same, List.map_cons]

/-! ## Selections -/

/-- A selection of the directives that are written in a text: no two of them overlap, and every
other one begins inside one of them. -/
structure IsSelection (text : List Char) (selected : Set Occurrence) : Prop where
  stands : ∀ occurrence ∈ selected, occurrence.StandsIn text
  apart : selected.Pairwise Occurrence.KeepsClear
  covers : ∀ occurrence : Occurrence, occurrence.StandsIn text →
    occurrence ∈ selected ∨ ∃ other ∈ selected, occurrence.BeginsInside other

theorem SelectsFrom.isSelection {text : List Char} {found : List Occurrence}
    (selects : SelectsFrom 0 text found) :
    IsSelection text {occurrence | occurrence ∈ found} where
  stands occurrence listed := (selects.stands occurrence listed).1
  apart := by
    have clear : found.Pairwise Occurrence.KeepsClear := selects.ordered.imp Or.inl
    exact clear.set_pairwise
  covers occurrence stands := selects.covers occurrence stands (Nat.zero_le _)

variable {text : List Char} {selected selected' : Set Occurrence}

/-- Of two selections each holds what the other holds: a first difference between them would be an
occurrence that one of them selects, and that begins inside an earlier one which both select. -/
theorem IsSelection.subset (selects : IsSelection text selected)
    (selects' : IsSelection text selected') : selected ⊆ selected' := by
  intro occurrence listed
  induction start : occurrence.start using Nat.strongRecOn
    generalizing occurrence selected selected' with
  | ind n ih =>
    subst start
    rcases selects'.covers occurrence (selects.stands occurrence listed) with there | inside
    · exact there
    · obtain ⟨other, there, before, within⟩ := inside
      have also : other ∈ selected := ih other.start before selects' selects there rfl
      have ne : occurrence ≠ other := by
        rintro rfl
        exact Nat.lt_irrefl _ before
      have ends := (selects.stands occurrence listed).start_lt_stop
      rcases selects.apart listed also ne with clear | clear <;> omega

theorem IsSelection.unique (selects : IsSelection text selected)
    (selects' : IsSelection text selected') : selected = selected' :=
  Set.ext fun _ => ⟨fun listed => selects.subset selects' listed,
    fun listed => selects'.subset selects listed⟩

/-- At each place of a text at most one directive is written, and the targets found are, in order,
those of the only way to select directives that keep clear of each other such that every other one
begins inside a selected one. -/
theorem targets_select (text : String) :
    (∀ occurrence other : Occurrence, occurrence.StandsIn text.toList →
      other.StandsIn text.toList → occurrence.start = other.start → occurrence = other) ∧
    ∃ found : List Occurrence,
      found.Pairwise (fun first second => first.stop ≤ second.start) ∧
      targets text = found.map (fun occurrence => String.ofList occurrence.target) ∧
      IsSelection text.toList {occurrence | occurrence ∈ found} ∧
      (∀ selected, IsSelection text.toList selected →
        selected = {occurrence | occurrence ∈ found}) ∧
      ∀ target ∈ targets text, target ≠ "" ∧ QuoteFree target.toList := by
  refine ⟨fun _ _ stands stands' start => stands.unique stands' start, ?_⟩
  obtain ⟨found, selects, same⟩ := exists_selectsFrom [] text.toList
  have listed : targets text = found.map fun occurrence => String.ofList occurrence.target := by
    unfold targets
    rw [same, List.map_map]
    rfl
  refine ⟨found, selects.ordered, listed, selects.isSelection,
    fun selected other => other.unique selects.isSelection, fun target there => ?_⟩
  rw [listed] at there
  obtain ⟨occurrence, also, rfl⟩ := List.mem_map.1 there
  obtain ⟨-, -, -, -, @⟨-, -, -, -, -, named, free, -⟩, -⟩ := (selects.stands occurrence also).1
  rw [String.toList_ofList]
  exact ⟨fun empty => named (String.ofList_eq_empty_iff.1 empty), free⟩

/-- A text in which two directives are written, the second one inside the first. The selection of
the text leaves it out. -/
theorem targets_select_inside :
    let text := "import 'import \"a' "
    let inside : Occurrence := ⟨8, 18, ['a']⟩
    inside.StandsIn text.toList ∧ targets text = ["import "] ∧
      ∃ selected, IsSelection text.toList selected ∧ inside ∉ selected ∧
        ∀ other, IsSelection text.toList other → other = selected := by
  intro text inside
  have opens : IsOpening ['i', 'm', 'p', 'o', 'r', 't', ' '] := by decide
  have spelled : Spelling ['a'] _ :=
    .mk opens (by decide : isQuote '"' = true) (by decide) (by decide)
      (by decide : isQuote '\'' = true)
  have stands : inside.StandsIn text.toList :=
    ⟨['i', 'm', 'p', 'o', 'r', 't', ' ', '\''], _, [' '], by decide, spelled, rfl, rfl⟩
  have scanned : targets text = ["import "] := by decide
  obtain ⟨-, found, -, listed, selection, unique, -⟩ := targets_select text
  refine ⟨stands, scanned, _, selection, fun there => ?_, unique⟩
  have target : String.ofList inside.target ∈ targets text := by
    rw [listed]
    exact List.mem_map_of_mem there
  rw [scanned] at target
  exact absurd target (by decide)

end Preflight.Import
