import Preflight.Import.Directive

/-!
What import directives look like, and how the scan for them goes through a text.

The scan stands at one place of a text at a time. Where no directive begins it moves on by one
character, and where one begins it moves behind the directive. These two steps are equations below,
and `scan_induction` is the induction that follows them: what they preserve holds of every text.
-/

namespace Preflight.Import

/-! ## The look of a directive -/

/-- Whether no character can open or close a target. -/
def QuoteFree (chars : List Char) : Prop := ∀ c ∈ chars, isQuote c = false

instance : DecidablePred QuoteFree := fun chars => List.decidableBAll (isQuote · = false) chars

/-- The part of a directive in front of its target: the keyword and at least one blank. -/
def IsOpening (text : List Char) : Prop :=
  ∃ blanks, text = keyword ++ blanks ∧ blanks ≠ [] ∧ ∀ c ∈ blanks, Text.isBlank c = true

instance : DecidablePred IsOpening := fun text =>
  match dropped : dropWord? keyword text with
  | none => isFalse fun ⟨blanks, parts, _⟩ => by
      rw [dropWord?_eq_some_iff.2 parts] at dropped
      cases dropped
  | some blanks =>
      decidable_of_iff (blanks ≠ [] ∧ blanks.all Text.isBlank = true) <| by
        have parts := dropWord?_eq_some_iff.1 dropped
        rw [List.all_eq_true]
        constructor
        · exact fun all => ⟨blanks, parts, all⟩
        · rintro ⟨others, same, all⟩
          rwa [List.append_cancel_left (parts.symm.trans same)]

/-- The ways to write a directive with a target: an opening, and the target between two quotes,
which need not be alike. -/
inductive Spelling (target : List Char) : List Char → Prop
  | mk {opening : List Char} {quote closing : Char} (opens : IsOpening opening)
      (begins : isQuote quote = true) (named : target ≠ []) (free : QuoteFree target)
      (ends : isQuote closing = true) : Spelling target (opening ++ quote :: (target ++ [closing]))

theorem isBlank_eq_false_of_isQuote {c : Char} (quote : isQuote c = true) :
    Text.isBlank c = false := by
  simp only [isQuote, Bool.or_eq_true, beq_iff_eq] at quote
  rcases quote with rfl | rfl <;> decide

/-- A directive takes characters. -/
theorem Spelling.length_pos {target directive : List Char} (spelled : Spelling target directive) :
    0 < directive.length := by
  cases spelled
  simp only [List.length_append, List.length_cons]
  omega

/-! ## Finding a directive -/

/-- Where a run of characters ends: they have a property that the next one has not. -/
theorem takeWhile_and_dropWhile_iff {p : Char → Bool} {text front : List Char} {c : Char}
    (rest : List Char) :
    text.takeWhile p = front ∧ text.dropWhile p = c :: rest ↔
      text = front ++ c :: rest ∧ (∀ d ∈ front, p d = true) ∧ p c = false := by
  constructor
  · rintro ⟨rfl, dropped⟩
    refine ⟨?_, fun d listed => List.all_eq_true.1 (List.all_takeWhile) d listed, ?_⟩
    · rw [← dropped, List.takeWhile_append_dropWhile]
    · have first := List.head?_dropWhile_not p text
      rw [dropped] at first
      simpa using first
  · rintro ⟨rfl, all, stop⟩
    rw [List.takeWhile_append_of_pos all, List.dropWhile_append_of_pos all,
      List.takeWhile_cons_of_neg (by simp [stop]), List.dropWhile_cons_of_neg (by simp [stop]),
      List.append_nil]
    exact ⟨rfl, rfl⟩

theorem target?_eq_some_iff {text target after : List Char} :
    target? text = some (target, after) ↔
      target ≠ [] ∧ QuoteFree target ∧
        ∃ closing, isQuote closing = true ∧ text = target ++ closing :: after := by
  have run (closing : Char) :
      text.takeWhile (fun c => !isQuote c) = target ∧
          text.dropWhile (fun c => !isQuote c) = closing :: after ↔
        text = target ++ closing :: after ∧ QuoteFree target ∧ isQuote closing = true := by
    rw [takeWhile_and_dropWhile_iff]
    simp only [Bool.not_eq_true', Bool.not_eq_false', QuoteFree]
  unfold target?
  dsimp only
  constructor
  · intro found
    split at found
    · next c others closing rest named dropped =>
      obtain ⟨rfl, rfl⟩ := Prod.mk.inj (Option.some.inj found)
      obtain ⟨parts, free, ends⟩ := (run closing).1 ⟨rfl, dropped⟩
      refine ⟨?_, free, closing, ends, parts⟩
      rw [named]
      exact List.cons_ne_nil c others
    · cases found
  · rintro ⟨named, free, closing, ends, parts⟩
    obtain ⟨taken, dropped⟩ := (run closing).2 ⟨parts, free, ends⟩
    obtain ⟨c, others, rfl⟩ := List.exists_cons_of_ne_nil named
    rw [taken, dropped]

/-- A directive at the beginning of a text is found, with its target and all that is behind it. -/
theorem directive?_append {target directive : List Char} (spelled : Spelling target directive)
    (after : List Char) : directive? (directive ++ after) = some (target, after) := by
  obtain @⟨opening, quote, closing, ⟨blanks, rfl, some_blank, all⟩, begins, named, free, ends⟩ :=
    spelled
  have dropped : dropWord? keyword
      (keyword ++ blanks ++ quote :: (target ++ [closing]) ++ after) =
        some (blanks ++ quote :: (target ++ closing :: after)) := by
    rw [dropWord?_eq_some_iff]
    simp only [List.append_assoc, List.cons_append, List.nil_append]
  obtain ⟨taken, left⟩ := (takeWhile_and_dropWhile_iff (target ++ closing :: after)).2
    ⟨rfl, all, isBlank_eq_false_of_isQuote begins⟩
  obtain ⟨blank, others, rfl⟩ := List.exists_cons_of_ne_nil some_blank
  unfold directive?
  rw [dropped]
  simp only [taken, left, if_pos begins]
  exact target?_eq_some_iff.2 ⟨named, free, closing, ends, rfl⟩

/-- What is found at the beginning of a text is a directive that is written there. -/
theorem exists_spelling_of_directive? {text target after : List Char}
    (found : directive? text = some (target, after)) :
    ∃ directive, Spelling target directive ∧ text = directive ++ after := by
  unfold directive? at found
  split at found
  · cases found
  · next rest dropped =>
    split at found
    · next blank blanks quote behind taken left =>
      split at found
      · next begins =>
        obtain ⟨parts, all, -⟩ := (takeWhile_and_dropWhile_iff behind).1 ⟨taken, left⟩
        obtain ⟨named, free, closing, ends, rfl⟩ := target?_eq_some_iff.1 found
        have opens : IsOpening (keyword ++ blank :: blanks) :=
          ⟨blank :: blanks, rfl, List.cons_ne_nil _ _, all⟩
        refine ⟨_, .mk opens begins named free ends, ?_⟩
        rw [dropWord?_eq_some_iff.1 dropped, parts]
        simp only [List.append_assoc, List.cons_append, List.nil_append]
      · cases found
    · cases found

/-- A text begins with one directive at most. -/
theorem Spelling.unique {target other directive directive' after after' : List Char}
    (spelled : Spelling target directive) (spelled' : Spelling other directive')
    (same : directive ++ after = directive' ++ after') :
    target = other ∧ directive = directive' := by
  have found := directive?_append spelled after
  rw [same, directive?_append spelled' after'] at found
  obtain ⟨rfl, rfl⟩ := Prod.mk.inj (Option.some.inj found)
  exact ⟨rfl, List.append_cancel_right same⟩

/-- Where none is found none is written. -/
theorem ne_append_of_directive?_eq_none {text target directive : List Char}
    (none : directive? text = none) (spelled : Spelling target directive) (after : List Char) :
    text ≠ directive ++ after := by
  rintro rfl
  rw [directive?_append spelled after] at none
  cases none

/-! ## The scan -/

/-- The scan passes over what belongs to a directive already recorded. -/
theorem targetsFrom_length_append (front rest : List Char) :
    targetsFrom front.length (front ++ rest) = targetsFrom 0 rest := by
  induction front with
  | nil => rfl
  | cons c front ih => exact ih

/-- Where no directive begins the scan moves on by one character. -/
theorem targetsFrom_cons {c : Char} {rest : List Char} (none : directive? (c :: rest) = none) :
    targetsFrom 0 (c :: rest) = targetsFrom 0 rest := by
  rw [targetsFrom, none]

/-- Where a directive begins the scan records its target and moves behind it. -/
theorem targetsFrom_append {target directive : List Char} (spelled : Spelling target directive)
    (after : List Char) :
    targetsFrom 0 (directive ++ after) = target :: targetsFrom 0 after := by
  have found := directive?_append spelled after
  obtain ⟨c, others, rfl⟩ := List.exists_cons_of_length_pos spelled.length_pos
  rw [List.cons_append] at found
  rw [List.cons_append, targetsFrom, found]
  have left : (others ++ after).length - after.length = others.length := by
    rw [List.length_append, Nat.add_sub_cancel]
  simp only [left, targetsFrom_length_append]

/-- Induction along the scan of a text. -/
@[elab_as_elim]
theorem scan_induction {motive : List Char → Prop} (text : List Char) (nil : motive [])
    (skip : ∀ c rest, directive? (c :: rest) = none → motive rest → motive (c :: rest))
    (found : ∀ target directive after, Spelling target directive → motive after →
      motive (directive ++ after)) : motive text := by
  induction length : text.length using Nat.strongRecOn generalizing text with
  | ind n ih =>
    cases text with
    | nil => exact nil
    | cons c rest =>
      cases first : directive? (c :: rest) with
      | none =>
        refine skip c rest first (ih rest.length ?_ rest rfl)
        rw [← length, List.length_cons]
        exact Nat.lt_succ_self _
      | some pair =>
        obtain ⟨directive, spelled, parts⟩ := exists_spelling_of_directive? first
        have taken := spelled.length_pos
        have shorter : pair.2.length < n := by
          rw [← length, parts, List.length_append]
          omega
        rw [parts]
        exact found _ directive _ spelled (ih _ shorter _ rfl)

end Preflight.Import
