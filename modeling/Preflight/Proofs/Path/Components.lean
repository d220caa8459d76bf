import Preflight.Proofs.Path.Segments

/-!
The components of paths, told by their segments.

The first segment of a path decides whether the components start at the top or at the directory
already reached. Every other segment stands for one component or for none, wherever it is. So the
components of a path below a root are those of the root and then what the segments of the path stand
for, and a path leads strictly below every root when these are names, and there is one.
-/

namespace Preflight.Path

/-! ## Segments -/

/-- The segments of a path are what is between its slashes. -/
theorem splitSlash_eq_splitOn (path : List Char) : splitSlash path = path.splitOn '/' := by
  unfold List.splitOn
  induction path with
  | nil => rfl
  | cons c path ih =>
    rw [splitSlash, List.splitOnP_cons_eq_if_modifyHead, ← ih]
    by_cases slash : c = '/'
    · rw [if_pos slash, if_pos (beq_iff_eq.2 slash)]
    · rw [if_neg slash, if_neg (fun same => slash (beq_iff_eq.1 same))]
      cases cut : splitSlash path with
      | nil => exact absurd cut (splitSlash_ne_nil path)
      | cons segment others => rfl

theorem segments_eq (path : String) :
    segments path = (path.toList.splitOn '/').map String.ofList := by
  unfold segments
  rw [splitSlash_eq_splitOn]

theorem exists_cons_segments (path : String) : ∃ first others, segments path = first :: others := by
  apply List.exists_cons_of_ne_nil
  unfold segments
  intro none
  exact splitSlash_ne_nil path.toList (List.map_eq_nil_iff.1 none)

/-- The first segment is empty where the path starts with a slash, and then there is another one. -/
theorem first_segment_cases {path first : String} {others : List String} (given : path ≠ "")
    (cut : segments path = first :: others) :
    isAbsolute path = true ∧ first = "" ∧ others ≠ [] ∨ isAbsolute path = false ∧ first ≠ "" := by
  obtain ⟨c, rest, spelled⟩ := List.exists_cons_of_ne_nil (ne_nil_of_ne_empty given)
  unfold segments at cut
  unfold isAbsolute
  rw [spelled, splitSlash] at cut
  rw [spelled, List.head?_cons]
  by_cases slash : c = '/'
  · rw [if_pos slash, List.map_cons, List.cons.injEq] at cut
    obtain ⟨rfl, rfl⟩ := cut
    left
    refine ⟨by rw [slash]; rfl, rfl, fun none => ?_⟩
    exact splitSlash_ne_nil rest (List.map_eq_nil_iff.1 none)
  · rw [if_neg slash] at cut
    right
    refine ⟨by simpa using slash, ?_⟩
    cases later : splitSlash rest with
    | nil => exact absurd later (splitSlash_ne_nil rest)
    | cons segment behind =>
      rw [later] at cut
      rcases List.cons.inj cut with ⟨rfl, -⟩
      simp

/-! ## Components -/

namespace Component

/-- The components that the first segment of a path stands for. -/
def ofFirst (segment : String) : List Component :=
  if segment = "" then [.top]
  else if segment = "." then [.here]
  else (ofSegment? segment).toList

theorem ofSegment?_ne_top (segment : String) : ofSegment? segment ≠ some .top := by
  unfold ofSegment?
  split_ifs <;> simp

theorem top_notMem_ofFirst {segment : String} (notEmpty : segment ≠ "") :
    .top ∉ ofFirst segment := by
  unfold ofFirst
  rw [if_neg notEmpty]
  split_ifs
  · simp
  · rw [Option.mem_toList]
    exact ofSegment?_ne_top segment

/-- A component that is no beginning is one of a first segment as it is one of any other. -/
theorem mem_ofFirst_iff {component : Component} (notTop : component ≠ .top)
    (notHere : component ≠ .here) {segment : String} :
    component ∈ ofFirst segment ↔ ofSegment? segment = some component := by
  unfold ofFirst
  split_ifs with empty dot
  · simp [ofSegment?, empty, notTop]
  · simp [ofSegment?, dot, notHere]
  · exact Option.mem_toList

theorem ofSegment?_eq_parent_iff {segment : String} :
    ofSegment? segment = some .parent ↔ segment = ".." := by
  unfold ofSegment?
  split_ifs with empty dot dots
  · simp [empty]
  · simp [dot]
  · simp [dots]
  · simp [dots]

theorem ofSegment?_eq_name_iff {segment text : String} :
    ofSegment? segment = some (.name text) ↔
      segment = text ∧ segment ≠ "" ∧ segment ≠ "." ∧ segment ≠ ".." := by
  unfold ofSegment?
  split_ifs with empty dot dots
  · simp [empty]
  · simp [dot]
  · simp [dots]
  · simp [empty, dot, dots]

/-- The segments that stand for names, when none of them goes up. -/
theorem filterMap_ofSegment? {segments : List String} (noParent : ".." ∉ segments) :
    segments.filterMap ofSegment? =
      (segments.filter fun segment => segment ≠ "" ∧ segment ≠ ".").map .name := by
  induction segments with
  | nil => rfl
  | cons segment others ih =>
    rw [List.mem_cons, not_or] at noParent
    obtain ⟨notUp, noParent⟩ := noParent
    rw [List.filterMap_cons, List.filter_cons, ih noParent]
    unfold ofSegment?
    by_cases empty : segment = ""
    · simp [empty]
    · by_cases dot : segment = "."
      · simp [dot]
      · rw [if_neg empty, if_neg dot, if_neg (Ne.symm notUp), if_pos (by simp [empty, dot])]
        rfl

/-- Segments that stand for names alone, and for one at least. -/
theorem eq_names_iff {segments : List String} :
    (∃ names : List String, names ≠ [] ∧ segments.filterMap ofSegment? = names.map .name) ↔
      ".." ∉ segments ∧ ∃ segment ∈ segments, segment ≠ "" ∧ segment ≠ "." := by
  constructor
  · rintro ⟨names, named, stands⟩
    refine ⟨fun up => ?_, ?_⟩
    · have listed : .parent ∈ segments.filterMap ofSegment? := List.mem_filterMap.2 ⟨"..", up, rfl⟩
      rw [stands] at listed
      simp at listed
    · obtain ⟨name, others, rfl⟩ := List.exists_cons_of_ne_nil named
      have listed : .name name ∈ segments.filterMap ofSegment? := by
        rw [stands]
        exact List.mem_cons_self
      obtain ⟨segment, among, names⟩ := List.mem_filterMap.1 listed
      obtain ⟨-, notEmpty, notDot, -⟩ := ofSegment?_eq_name_iff.1 names
      exact ⟨segment, among, notEmpty, notDot⟩
  · rintro ⟨noParent, segment, listed, named⟩
    have kept : segment ∈ segments.filter fun segment => segment ≠ "" ∧ segment ≠ "." :=
      List.mem_filter.2 ⟨listed, by simpa using named⟩
    exact ⟨_, List.ne_nil_of_mem kept, filterMap_ofSegment? noParent⟩

end Component

/-- The components of a path are those that its first segment stands for, and then those of the
other segments. -/
theorem components_eq {path first : String} {others : List String} (given : path ≠ "")
    (cut : segments path = first :: others) :
    components path = Component.ofFirst first ++ others.filterMap Component.ofSegment? := by
  have more := first_segment_cases given cut
  unfold components Component.ofFirst
  rw [cut]
  split
  · next none => cases none
  · next single =>
    obtain ⟨rfl, rfl⟩ := List.cons.inj single
    simp at more
  · next same =>
    obtain ⟨rfl, rfl⟩ := List.cons.inj same
    rfl
  · next same =>
    obtain ⟨rfl, rfl⟩ := List.cons.inj same
    rfl
  · next notEmpty notDot same =>
    obtain ⟨rfl, rfl⟩ := List.cons.inj same
    rw [if_neg notEmpty, if_neg notDot, List.filterMap_cons]
    cases Component.ofSegment? first <;> rfl

/-- The components of a path below a root follow those of the root. -/
theorem components_join {root path : String} (given : root ≠ "")
    (relative : isAbsolute path = false) :
    components (join root path) =
      components root ++ (segments path).filterMap Component.ofSegment? := by
  obtain ⟨front, joined, whole⟩ := segments_join given relative
  have joinGiven : join root path ≠ "" := join_ne_empty given
  cases front with
  | nil =>
    -- Then the root would be the empty path, or have no segment.
    obtain ⟨first, others, cut⟩ := exists_cons_segments root
    rcases whole with none | single
    · rw [cut] at none
      cases none
    · have more := first_segment_cases given single
      simp at more
  | cons first others =>
    rw [List.cons_append] at joined whole
    rw [components_eq joinGiven joined]
    rcases whole with same | slash
    · rw [components_eq given same, List.filterMap_append, List.append_assoc]
    · rw [components_eq given slash, List.filterMap_append, List.filterMap_append,
        List.append_assoc]
      rw [List.filterMap_cons]
      simp [Component.ofSegment?]

/-- A component that is no beginning is in a path where some segment stands for it. -/
theorem mem_components_iff {path : String} {component : Component} (notTop : component ≠ .top)
    (notHere : component ≠ .here) :
    component ∈ components path ↔
      ∃ segment ∈ segments path, Component.ofSegment? segment = some component := by
  by_cases empty : path = ""
  · subst empty
    have none : Component.ofSegment? "" ≠ some component := by simp [Component.ofSegment?]
    have bare : segments "" = [""] := rfl
    simp [components, bare, none]
  · obtain ⟨first, others, cut⟩ := exists_cons_segments path
    rw [components_eq empty cut, cut, List.mem_append, List.mem_filterMap,
      Component.mem_ofFirst_iff notTop notHere]
    simp only [List.mem_cons, or_and_right, exists_or, exists_eq_left]

/-- The components go up where a segment is two dots. -/
theorem parent_mem_components_iff {path : String} :
    .parent ∈ components path ↔ ".." ∈ segments path := by
  rw [mem_components_iff (by simp) (by simp)]
  simp only [Component.ofSegment?_eq_parent_iff, exists_eq_right]

theorem name_mem_components_iff {path text : String} :
    .name text ∈ components path ↔
      text ∈ segments path ∧ text ≠ "" ∧ text ≠ "." ∧ text ≠ ".." := by
  rw [mem_components_iff (by simp) (by simp)]
  constructor
  · rintro ⟨segment, listed, named⟩
    obtain ⟨rfl, is⟩ := Component.ofSegment?_eq_name_iff.1 named
    exact ⟨listed, is⟩
  · rintro ⟨listed, is⟩
    exact ⟨text, listed, Component.ofSegment?_eq_name_iff.2 ⟨rfl, is⟩⟩

/-- The components of an absolute path begin with the top, and those of a relative one never get
there. -/
theorem components_of_isAbsolute {path : String} (absolute : isAbsolute path = true) :
    ∃ others, components path = .top :: others := by
  have given : path ≠ "" := by
    rintro rfl
    cases absolute
  obtain ⟨first, others, cut⟩ := exists_cons_segments path
  rcases first_segment_cases given cut with ⟨-, rfl, -⟩ | ⟨relative, -⟩
  · exact ⟨_, components_eq given cut⟩
  · rw [absolute] at relative
    cases relative

theorem top_notMem_components {path : String} (relative : isAbsolute path = false) :
    .top ∉ components path := by
  by_cases empty : path = ""
  · subst empty
    exact List.not_mem_nil
  · obtain ⟨first, others, cut⟩ := exists_cons_segments path
    rw [components_eq empty cut, List.mem_append, List.mem_filterMap]
    rintro (begins | ⟨segment, -, top⟩)
    · rcases first_segment_cases empty cut with ⟨absolute, -⟩ | ⟨-, notEmpty⟩
      · rw [absolute] at relative
        cases relative
      · exact Component.top_notMem_ofFirst notEmpty begins
    · exact Component.ofSegment?_ne_top segment top

/-- A path leads strictly below every root when it is relative, none of its segments goes up, and
one of them is a name. -/
theorem leads_below_iff {path : String} :
    (∀ root, root ≠ "" → ∃ names : List String, names ≠ [] ∧
      components (join root path) = components root ++ names.map .name) ↔
    isAbsolute path = false ∧ ".." ∉ segments path ∧
      ∃ segment ∈ segments path, segment ≠ "" ∧ segment ≠ "." := by
  constructor
  · intro below
    obtain ⟨names, named, same⟩ := below "r" (by decide)
    have relative : isAbsolute path = false := by
      rw [Bool.eq_false_iff]
      intro absolute
      obtain ⟨others, top⟩ := components_of_isAbsolute absolute
      unfold join at same
      rw [if_pos absolute, top] at same
      have root : components "r" = [.name "r"] := by decide
      rw [root] at same
      cases same
    rw [components_join (by decide) relative] at same
    exact ⟨relative, Component.eq_names_iff.1 ⟨names, named, List.append_cancel_left same⟩⟩
  · rintro ⟨relative, stands⟩ root given
    obtain ⟨names, named, same⟩ := Component.eq_names_iff.2 stands
    exact ⟨names, named, by rw [components_join given relative, same]⟩

end Preflight.Path
