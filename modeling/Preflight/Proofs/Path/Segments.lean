import Mathlib.Tactic.SplitIfs
import Preflight.Path.Basic

/-!
The segments of joined paths.

A path below a root adds its segments to those of the root, however the root ends. So whatever walks
a joined path walks the root first.
-/

namespace Preflight.Path

/-- Splitting at a slash. -/
theorem splitSlash_append_slash (path rest : List Char) :
    splitSlash (path ++ '/' :: rest) = splitSlash path ++ splitSlash rest := by
  induction path with
  | nil => rfl
  | cons c path ih =>
    rw [List.cons_append, splitSlash, splitSlash, ih]
    split
    · rfl
    · cases first : splitSlash path with
      | nil => exact absurd first (splitSlash_ne_nil path)
      | cons segment others => rfl

/-- What stands between slashes has none. -/
theorem slash_notMem_of_mem_splitSlash {path segment : List Char}
    (listed : segment ∈ splitSlash path) : '/' ∉ segment := by
  induction path generalizing segment with
  | nil =>
    rw [splitSlash, List.mem_singleton] at listed
    rw [listed]
    exact List.not_mem_nil
  | cons c path ih =>
    rw [splitSlash] at listed
    split at listed
    · rcases List.mem_cons.1 listed with rfl | later
      · exact List.not_mem_nil
      · exact ih later
    · next other =>
      cases split : splitSlash path with
      | nil => exact absurd split (splitSlash_ne_nil path)
      | cons first others =>
        rw [split] at ih listed
        rcases List.mem_cons.1 listed with rfl | later
        · exact List.not_mem_cons_of_ne_of_not_mem (Ne.symm other) (ih List.mem_cons_self)
        · exact ih (List.mem_cons_of_mem first later)

theorem slash_notMem_of_mem_segments {path segment : String} (listed : segment ∈ segments path) :
    '/' ∉ segment.toList := by
  obtain ⟨chars, split, rfl⟩ := List.mem_map.1 listed
  rw [String.toList_ofList]
  exact slash_notMem_of_mem_splitSlash split

theorem splitSlash_of_notMem {path : List Char} (whole : '/' ∉ path) :
    splitSlash path = [path] := by
  induction path with
  | nil => rfl
  | cons c path ih =>
    obtain ⟨other, rest⟩ := List.ne_and_not_mem_of_not_mem_cons whole
    rw [splitSlash, if_neg other.symm, ih rest]

theorem segments_of_notMem {path : String} (whole : '/' ∉ path.toList) :
    segments path = [path] := by
  rw [segments, splitSlash_of_notMem whole, List.map_singleton, String.ofList_toList]

theorem segments_append_slash (path rest : String) :
    segments (path ++ "/" ++ rest) = segments path ++ segments rest := by
  rw [segments, segments, segments, ← List.map_append, ← splitSlash_append_slash,
    String.toList_append, String.toList_append, List.append_assoc]
  rfl

/-- The segments of a path that is put together from names. -/
theorem segments_intercalate {names : List String} (given : names ≠ [])
    (whole : ∀ name ∈ names, '/' ∉ name.toList) :
    segments (String.intercalate "/" names) = names := by
  induction names with
  | nil => exact absurd rfl given
  | cons name names ih =>
    obtain ⟨first, others⟩ := List.forall_mem_cons.1 whole
    cases names with
    | nil =>
      rw [String.intercalate_singleton, segments_of_notMem first]
    | cons second names =>
      rw [String.intercalate_cons_cons, segments_append_slash,
        segments_of_notMem first, ih (List.cons_ne_nil _ _) others]
      rfl

/-- A path that is put together from names has their characters and slashes. -/
theorem notMem_intercalate {c : Char} (other : c ≠ '/') {names : List String}
    (absent : ∀ name ∈ names, c ∉ name.toList) : c ∉ (String.intercalate "/" names).toList := by
  induction names with
  | nil => exact List.not_mem_nil
  | cons name names ih =>
    obtain ⟨first, others⟩ := List.forall_mem_cons.1 absent
    cases names with
    | nil => rwa [String.intercalate_singleton]
    | cons second names =>
      have slash : c ∉ "/".toList := List.not_mem_cons_of_ne_of_not_mem other List.not_mem_nil
      rw [String.intercalate_cons_cons, String.toList_append, String.toList_append]
      exact List.not_mem_append (List.not_mem_append first slash) (ih others)

/-- A path that stays below the place it is read from: it does not start at the top and never goes
up. -/
structure StaysBelow (path : String) : Prop where
  relative : isAbsolute path = false
  noParent : ".." ∉ segments path

theorem ne_nil_of_ne_empty {path : String} (h : path ≠ "") : path.toList ≠ [] :=
  fun empty => h (String.toList_eq_nil_iff.1 empty)

/-- A path below a root starts where the root starts. -/
theorem isAbsolute_join {root path : String} (given : root ≠ "")
    (relative : isAbsolute path = false) : isAbsolute (join root path) = isAbsolute root := by
  obtain ⟨c, others, spelled⟩ := List.exists_cons_of_ne_nil (ne_nil_of_ne_empty given)
  rw [join, if_neg (by rw [relative]; exact Bool.false_ne_true)]
  split <;> simp [isAbsolute, String.toList_append, spelled]

theorem join_ne_empty {root path : String} (given : root ≠ "") : join root path ≠ "" := by
  rw [join]
  split_ifs with absolute bare
  · rintro rfl
    cases absolute
  · simp [given]
  · simp [given]

/-- A path below a root has the segments of the root in front, but for the empty one that a slash at
the end of the root makes. -/
theorem segments_join {root path : String} (given : root ≠ "")
    (relative : isAbsolute path = false) :
    ∃ front, segments (join root path) = front ++ segments path ∧
      (segments root = front ∨ segments root = front ++ [""]) := by
  have bare : root.isEmpty = false := by simpa using given
  rw [join, if_neg (by rw [relative]; exact Bool.false_ne_true), bare, Bool.false_or]
  split
  · next slash =>
    obtain ⟨front, spelled⟩ := List.getLast?_eq_some_iff.1 (beq_iff_eq.1 slash)
    refine ⟨(splitSlash front).map String.ofList, ?_, .inr ?_⟩
    · rw [segments, String.toList_append, spelled, List.append_assoc, List.singleton_append,
        splitSlash_append_slash, List.map_append]
      rfl
    · rw [segments, spelled, splitSlash_append_slash, List.map_append]
      rfl
  · exact ⟨segments root, segments_append_slash root path, .inl rfl⟩

end Preflight.Path
