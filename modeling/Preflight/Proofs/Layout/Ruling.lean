import Mathlib.Tactic.Common
import Preflight.Proofs.Layout.Validation

/-!
Which violation a layout is refused for.

A path can be ruled on as it is written, without its components: whether it is blank, starts with a
slash, goes up somewhere or names nothing, in this order. A layout is refused for the first of its
paths that is ruled out, and the paths that pass are those that lead strictly below every root.
-/

namespace Preflight.Layout

/-- Whether a text holds nothing but blank characters. -/
def IsBlank (text : String) : Prop := ∀ c ∈ text.toList, Text.isBlank c = true

instance : DecidablePred IsBlank := fun text =>
  List.decidableBAll (Text.isBlank · = true) text.toList

theorem allBlank_iff {text : String} : Text.allBlank text = true ↔ IsBlank text :=
  List.all_eq_true

/-- What a path comes to by the texts between its slashes. -/
def ruling (path : String) : Except Violation Unit :=
  let segments := (path.toList.splitOn '/').map String.ofList
  if IsBlank path then .error .namesNothing
  else if path.toList.head? = some '/' then .error (.absolute path)
  else if ".." ∈ segments then .error (.leavesRoot path)
  else if ∀ segment ∈ segments, segment = "" ∨ segment = "." then .error .namesNothing
  else .ok ()

/-! ## Components that do not pass -/

/-- A component that goes up is told unless the top comes first. -/
theorem judgeComponents_of_parent_mem {path : String} {named : Bool}
    {components : List Path.Component} (noTop : .top ∉ components)
    (up : .parent ∈ components) :
    judgeComponents path named components = .error (.leavesRoot path) := by
  induction components generalizing named with
  | nil => cases up
  | cons component others ih =>
    rw [List.mem_cons, not_or] at noTop
    cases component with
    | top => exact absurd rfl noTop.1
    | parent => rfl
    | here => exact ih noTop.2 (by simpa using up)
    | name text => exact ih noTop.2 (by simpa using up)

/-- Components of which none leads anywhere name nothing. -/
theorem judgeComponents_of_idle {path : String} {components : List Path.Component}
    (idle : ∀ component ∈ components, component = .here) :
    judgeComponents path false components = .error .namesNothing := by
  induction components with
  | nil => rfl
  | cons component others ih =>
    rw [List.forall_mem_cons] at idle
    rw [idle.1]
    exact ih idle.2

/-- A relative path is judged by its segments alone. -/
theorem judgeComponents_of_relative {path : String} (relative : Path.isAbsolute path = false) :
    judgeComponents path false (Path.components path) =
      if ".." ∈ Path.segments path then .error (.leavesRoot path)
      else if ∀ segment ∈ Path.segments path, segment = "" ∨ segment = "." then
        .error .namesNothing
      else .ok () := by
  have noTop := Path.top_notMem_components relative
  split_ifs with up idle
  · exact judgeComponents_of_parent_mem noTop (Path.parent_mem_components_iff.2 up)
  · apply judgeComponents_of_idle
    intro component listed
    cases component with
    | top => exact absurd listed noTop
    | here => rfl
    | parent => exact absurd (Path.parent_mem_components_iff.1 listed) up
    | name text =>
      obtain ⟨segment, notEmpty, notDot, -⟩ := Path.name_mem_components_iff.1 listed
      rcases idle text segment with empty | dot
      · exact absurd empty notEmpty
      · exact absurd dot notDot
  · push Not at idle
    obtain ⟨text, segment, notEmpty, notDot⟩ := idle
    have notUp : text ≠ ".." := fun same => up (same ▸ segment)
    have named := Path.name_mem_components_iff.2 ⟨segment, notEmpty, notDot, notUp⟩
    exact judgeComponents_eq_ok_iff.2
      ⟨noTop, fun parent => up (Path.parent_mem_components_iff.1 parent), .inr ⟨text, named⟩⟩

/-- A path is judged by its components as it is ruled on by its characters. -/
theorem judgePath_eq_ruling (path : String) : judgePath path = ruling path := by
  have absolute : Path.isAbsolute path = true ↔ path.toList.head? = some '/' := beq_iff_eq
  unfold judgePath ruling
  rw [← Path.segments_eq]
  by_cases blank : IsBlank path
  · simp only [if_pos (allBlank_iff.2 blank), if_pos blank]
  · simp only [if_neg (fun all => blank (allBlank_iff.1 all)), if_neg blank]
    cases first : Path.isAbsolute path with
    | true =>
      obtain ⟨others, top⟩ := Path.components_of_isAbsolute first
      rw [top, if_pos (absolute.1 first)]
      rfl
    | false =>
      have noSlash : path.toList.head? ≠ some '/' := by
        intro slash
        rw [absolute.2 slash] at first
        cases first
      rw [if_neg noSlash, judgeComponents_of_relative first]

/-- The paths that pass are those that lead strictly below every root. -/
theorem ruling_eq_ok_iff {path : String} (written : ¬IsBlank path) :
    ruling path = .ok () ↔
      ∀ root, root ≠ "" → ∃ names : List String, names ≠ [] ∧
        Path.components (Path.join root path) =
          Path.components root ++ names.map .name := by
  rw [Path.leads_below_iff, ← judgePath_eq_ruling]
  unfold judgePath
  rw [if_neg (fun all => written (allBlank_iff.1 all))]
  cases first : Path.isAbsolute path with
  | true =>
    obtain ⟨others, top⟩ := Path.components_of_isAbsolute first
    rw [top]
    simp [judgeComponents]
  | false =>
    rw [judgeComponents_of_relative first]
    split_ifs with up idle
    · simp [up]
    · simp only [false_iff]
      rintro ⟨-, -, segment, listed, notEmpty, notDot⟩
      rcases idle segment listed with empty | dot
      · exact notEmpty empty
      · exact notDot dot
    · push Not at idle
      exact iff_of_true rfl ⟨rfl, up, idle⟩

/-! ## The first path that does not pass -/

/-- What a path is refused for, if it is. -/
def refusal? (path : String) : Option Violation :=
  match judgePath path with
  | .error violation => some violation
  | .ok () => none

theorem refusal?_eq_some_iff {path : String} {violation : Violation} :
    refusal? path = some violation ↔ judgePath path = .error violation := by
  unfold refusal?
  cases judgePath path <;> simp

theorem refusal?_eq_none_iff {path : String} :
    refusal? path = none ↔ judgePath path = .ok () := by
  unfold refusal?
  cases judgePath path <;> simp

theorem judgePaths_eq_error_iff_findSome? {paths : List String} {violation : Violation} :
    judgePaths paths = .error violation ↔ paths.findSome? refusal? = some violation := by
  induction paths with
  | nil => simp [judgePaths]
  | cons path paths ih =>
    rw [judgePaths, List.findSome?_cons]
    cases judged : judgePath path with
    | error found => simp [refusal?_eq_some_iff.2 judged]
    | ok => rw [refusal?_eq_none_iff.2 judged, ← ih]

/-- Paths fail at the first of them that does. -/
theorem judgePaths_eq_error_iff {paths : List String} {violation : Violation} :
    judgePaths paths = .error violation ↔
      ∃ front path back, paths = front ++ path :: back ∧
        (∀ earlier ∈ front, judgePath earlier = .ok ()) ∧ judgePath path = .error violation := by
  rw [judgePaths_eq_error_iff_findSome?, List.findSome?_eq_some_iff]
  simp only [refusal?_eq_some_iff, refusal?_eq_none_iff]
  exact exists₃_congr fun _ _ _ => and_congr_right fun _ => and_comm

/-- A path is refused for what it is itself, never for what only a whole layout can lack. -/
theorem ne_of_judgePaths {paths : List String} {violation : Violation}
    (failed : judgePaths paths = .error violation) :
    violation ≠ .noEntries ∧ violation ≠ .blankManifest := by
  obtain ⟨-, path, -, -, -, refused⟩ := judgePaths_eq_error_iff.1 failed
  rw [judgePath_eq_ruling] at refused
  unfold ruling at refused
  dsimp only at refused
  split_ifs at refused <;> cases refused <;> exact ⟨by simp, by simp⟩

theorem validate_of_isBlank {layout : Layout} (nonempty : layout.entries ≠ [])
    (blank : IsBlank layout.manifest) : layout.validate = .error .blankManifest := by
  unfold validate
  rw [if_neg (fun none => nonempty (List.isEmpty_iff.1 none)), if_pos (allBlank_iff.2 blank)]

/-- A layout that has entries and names a manifest is judged by its paths. -/
theorem validate_eq_judgePaths {layout : Layout} (nonempty : layout.entries ≠ [])
    (named : ¬IsBlank layout.manifest) :
    layout.validate = judgePaths (layout.manifest :: layout.paths) := by
  unfold validate
  rw [if_neg (fun none => nonempty (List.isEmpty_iff.1 none)),
    if_neg (fun all => named (allBlank_iff.1 all))]

theorem validate_eq_noEntries_iff {layout : Layout} :
    layout.validate = .error .noEntries ↔ layout.entries = [] := by
  constructor
  · intro refused
    by_contra nonempty
    by_cases blank : IsBlank layout.manifest
    · rw [validate_of_isBlank nonempty blank] at refused
      cases refused
    · rw [validate_eq_judgePaths nonempty blank] at refused
      exact (ne_of_judgePaths refused).1 rfl
  · intro none
    unfold validate
    rw [none]
    rfl

theorem validate_eq_blankManifest_iff {layout : Layout} (nonempty : layout.entries ≠ []) :
    layout.validate = .error .blankManifest ↔ IsBlank layout.manifest := by
  constructor
  · intro refused
    by_contra named
    rw [validate_eq_judgePaths nonempty named] at refused
    exact (ne_of_judgePaths refused).2 rfl
  · exact validate_of_isBlank nonempty

/-- A layout without entries is refused for that, and one with a blank manifest for that. Any other
is refused for the first of its paths that is ruled out, and is sound if there is none. A path that
is not blank passes when below every root it adds names to the components of the root, and nothing
else. -/
theorem validate_first_violation :
    (∀ layout : Layout,
      (layout.validate = .error .noEntries ↔ layout.entries = []) ∧
      (layout.entries ≠ [] →
        (layout.validate = .error .blankManifest ↔ IsBlank layout.manifest)) ∧
      (layout.entries ≠ [] → ¬IsBlank layout.manifest →
        let paths := layout.manifest :: layout.entries.map (·.path)
        (layout.validate = .ok () ↔ ∀ path ∈ paths, ruling path = .ok ()) ∧
        ∀ violation, layout.validate = .error violation ↔
          ∃ front path back, paths = front ++ path :: back ∧
            (∀ earlier ∈ front, ruling earlier = .ok ()) ∧ ruling path = .error violation)) ∧
    ∀ path : String, ¬IsBlank path →
      (ruling path = .ok () ↔
        ∀ root, root ≠ "" → ∃ names : List String, names ≠ [] ∧
          Path.components (Path.join root path) =
            Path.components root ++ names.map .name) := by
  refine ⟨fun layout => ⟨validate_eq_noEntries_iff, validate_eq_blankManifest_iff,
    fun nonempty named => ?_⟩, fun path => ruling_eq_ok_iff⟩
  intro paths
  rw [validate_eq_judgePaths nonempty named]
  simp only [← judgePath_eq_ruling]
  exact ⟨judgePaths_eq_ok_iff, fun violation => judgePaths_eq_error_iff⟩

/-- A layout whose second entry is the first one to be ruled out, and a path with a dot and a
doubled slash that passes, below a root that ends in a dot. -/
theorem validate_first_violation_absolute :
    let layout : Layout :=
      ⟨"pubspec.yaml", [], [], [.source "./lib//a", .structural "/../b", .structural "c/.."]⟩
    layout.entries ≠ [] ∧ ¬IsBlank layout.manifest ∧
      layout.validate = .error (.absolute "/../b") ∧
      ¬IsBlank "./lib//a" ∧ ∃ names : List String, names ≠ [] ∧
        Path.components (Path.join "/srv/." "./lib//a") =
          Path.components "/srv/." ++ names.map .name := by
  intro layout
  have nonempty : layout.entries ≠ [] := by decide
  have named : ¬IsBlank layout.manifest := by decide
  have written : ¬IsBlank "./lib//a" := by decide
  have passes : ruling "./lib//a" = .ok () := by decide
  have first := ((validate_first_violation.1 layout).2.2 nonempty named).2 (.absolute "/../b")
  refine ⟨nonempty, named, first.2 ?_, written, ?_⟩
  · refine ⟨["pubspec.yaml", "./lib//a"], "/../b", ["c/.."], rfl, ?_, by decide⟩
    rw [List.forall_mem_cons, List.forall_mem_singleton]
    exact ⟨by decide, passes⟩
  · exact (validate_first_violation.2 "./lib//a" written).1 passes "/srv/." (by decide)

end Preflight.Layout
