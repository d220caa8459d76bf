import Preflight.Layout.Validation
import Preflight.Proofs.Path.Components

/-!
What a sound layout is sure of: none of its paths leaves the directory it is read from.
-/

namespace Preflight.Layout

/-- Components pass when none of them leads to the top or up, and one is a name. -/
theorem judgeComponents_eq_ok_iff {path : String} {named : Bool}
    {components : List Path.Component} :
    judgeComponents path named components = .ok () ↔
      .top ∉ components ∧ .parent ∉ components ∧
        (named = true ∨ ∃ text, .name text ∈ components) := by
  induction components generalizing named with
  | nil => cases named <;> simp [judgeComponents]
  | cons component rest ih =>
    cases component with
    | top => simp [judgeComponents]
    | parent => simp [judgeComponents]
    | name text => simp [judgeComponents, ih]
    | here => simp [judgeComponents, ih]

theorem staysBelow_of_judgePath {path : String} (sound : judgePath path = .ok ()) :
    Path.StaysBelow path := by
  rw [judgePath] at sound
  split at sound
  · cases sound
  · obtain ⟨noTop, noParent, -⟩ := judgeComponents_eq_ok_iff.1 sound
    refine ⟨?_, fun up => noParent (Path.parent_mem_components_iff.2 up)⟩
    rw [Bool.eq_false_iff]
    intro absolute
    obtain ⟨others, top⟩ := Path.components_of_isAbsolute absolute
    rw [top] at noTop
    exact noTop List.mem_cons_self

theorem judgePaths_eq_ok_iff {paths : List String} :
    judgePaths paths = .ok () ↔ ∀ path ∈ paths, judgePath path = .ok () := by
  induction paths with
  | nil => simp [judgePaths]
  | cons path paths ih =>
    rw [judgePaths, List.forall_mem_cons]
    cases judgePath path with
    | error violation => simp
    | ok _ => simpa using ih

/-- Every path that a sound layout names stays below the root. -/
theorem staysBelow_of_validate {layout : Layout} (sound : layout.validate = .ok ()) {path : String}
    (listed : path ∈ layout.manifest :: layout.paths) : Path.StaysBelow path := by
  rw [validate] at sound
  split at sound
  · cases sound
  · split at sound
    · cases sound
    · exact staysBelow_of_judgePath (judgePaths_eq_ok_iff.1 sound path listed)

end Preflight.Layout
