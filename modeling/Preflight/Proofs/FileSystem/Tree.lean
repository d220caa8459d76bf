import Mathlib.Data.List.Induction
import Preflight.Proofs.FileSystem.Leads

/-!
File systems in which whatever there is stands in a directory, under a name.

In such a tree a walk that starts in a directory stays with what is there, and the path that spells
a directory out leads back to it. So a working directory can be told by its path.
-/

namespace Preflight

namespace Place

theorem isAbsolute_path (place : Place) : Path.isAbsolute place.path = true := by
  rw [path, Path.isAbsolute, String.toList_append]
  rfl

theorem path_ne_empty (place : Place) : place.path ≠ "" := by
  intro empty
  have absolute := place.isAbsolute_path
  rw [empty] at absolute
  cases absolute

/-- The path of a place reads its names from the top. -/
theorem segments_path {place : Place} (below : place ≠ [])
    (whole : ∀ name ∈ place, '/' ∉ name.toList) : Path.segments place.path = "" :: place := by
  have split := Path.segments_append_slash "" (String.intercalate "/" place)
  rw [Path.segments_intercalate below whole] at split
  rw [path]
  exact split

theorem nul_notMem_path {place : Place} (written : ∀ name ∈ place, '\x00' ∉ name.toList) :
    '\x00' ∉ place.path.toList := by
  rw [path, String.toList_append]
  exact List.not_mem_append (by decide) (Path.notMem_intercalate (by decide) written)

end Place

namespace FileSystem

/-- A name that something in a directory can have. -/
structure IsName (name : String) : Prop extends IsProper name where
  noSlash : '/' ∉ name.toList
  noNul : '\x00' ∉ name.toList

/-- Whether a file system is a tree of directories: its top is no file, and whatever else there is
stands in a directory and has a name. -/
structure IsTree (fs : FileSystem) : Prop where
  top : fs.isFile [] = false
  holder {holder : Place} {name : String} {node : Node} :
    fs.node? (holder ++ [name]) = some node → fs.isDirectory holder = true
  named {holder : Place} {name : String} {node : Node} :
    fs.node? (holder ++ [name]) = some node → IsName name

/-- Whether there is a directory or a file at a place, and no link. -/
def IsSettled (fs : FileSystem) (place : Place) : Prop :=
  fs.isDirectory place = true ∨ fs.isFile place = true

variable {fs : FileSystem} {here place : Place}

theorem isDirectory_iff :
    fs.isDirectory place = true ↔ place = [] ∨ fs.node? place = some .directory := by
  rw [isDirectory, Bool.or_eq_true, List.isEmpty_iff, beq_iff_eq]

theorem node?_of_isDirectory {holder : Place} {name : String}
    (directory : fs.isDirectory (holder ++ [name]) = true) :
    fs.node? (holder ++ [name]) = some .directory :=
  (isDirectory_iff.1 directory).resolve_left (List.concat_ne_nil name holder)

theorem IsSettled.isDirectory (settled : fs.IsSettled place) (entered : fs.isFile place = false) :
    fs.isDirectory place = true := by
  refine settled.resolve_right ?_
  rw [entered]
  exact Bool.false_ne_true

theorem isTree_empty : empty.IsTree where
  top := rfl
  holder stands := by cases stands
  named stands := by cases stands

namespace IsTree

theorem isFile_eq_false (tree : fs.IsTree) (directory : fs.isDirectory place = true) :
    fs.isFile place = false := by
  rcases isDirectory_iff.1 directory with rfl | stands
  · exact tree.top
  · rw [isFile, stands]

/-! ## Steps -/

theorem isDirectory_dropLast (tree : fs.IsTree) (directory : fs.isDirectory place = true) :
    fs.isDirectory place.dropLast = true := by
  cases place using List.reverseRecOn with
  | nil => exact directory
  | append_singleton holder name =>
    rw [List.dropLast_concat]
    exact tree.holder (node?_of_isDirectory directory)

/-- A step stays with what is there. -/
theorem isSettled_of_steps (tree : fs.IsTree) (settled : fs.IsSettled here) {segment : String}
    (stepped : fs.Steps here segment (.arrive place)) : fs.IsSettled place := by
  have directory := settled.isDirectory stepped.entered
  cases stepped with
  | stay _ _ => exact .inl directory
  | up _ => exact .inl (tree.isDirectory_dropLast directory)
  | @enter _ _ node _ _ stands leads =>
    cases node with
    | directory =>
      cases leads
      exact .inl (isDirectory_iff.2 (.inr stands))
    | link target => cases leads
    | file bytes =>
      cases leads
      exact .inr (by rw [isFile, stands])
    | locked fault =>
      cases leads
      exact .inr (by rw [isFile, stands])

theorem isSettled_start (settled : fs.IsSettled here) (path : String) :
    fs.IsSettled (start here path) := by
  rw [start]
  split
  · exact .inl rfl
  · exact settled

/-- Segments lead to something that is there. -/
theorem isSettled_of_leads (tree : fs.IsTree) {links : Nat} {segments : List String}
    (settled : fs.IsSettled here) (led : fs.Leads links here segments place) :
    fs.IsSettled place := by
  induction led with
  | stay here => exact settled
  | arrive stepped _ ih => exact ih (tree.isSettled_of_steps settled stepped)
  | divert _ _ ih => exact ih (isSettled_start settled _)

theorem isSettled_of_walk (tree : fs.IsTree) {links : Nat} {segments : List String}
    (settled : fs.IsSettled here) (walked : fs.walk links here segments = .ok place) :
    fs.IsSettled place := by
  obtain ⟨_, -, led⟩ := walk_eq_ok_iff.1 walked
  exact tree.isSettled_of_leads settled led

theorem isSettled_of_locate (tree : fs.IsTree) {path : String} (settled : fs.IsSettled here)
    (located : fs.locate here path = .ok place) : fs.IsSettled place :=
  tree.isSettled_of_walk (isSettled_start settled path) (walk_of_locate located)

/-! ## The working directory -/

theorem isName_of_mem (tree : fs.IsTree) (directory : fs.isDirectory place = true) {name : String}
    (listed : name ∈ place) : IsName name := by
  induction place using List.reverseRecOn with
  | nil => cases listed
  | append_singleton holder last ih =>
    have stands := node?_of_isDirectory directory
    rcases List.mem_append.1 listed with above | same
    · exact ih (tree.holder stands) above
    · rw [List.mem_singleton.1 same]
      exact tree.named stands

/-- The names of a directory lead to it from the top. -/
theorem leads_of_isDirectory (tree : fs.IsTree) (directory : fs.isDirectory place = true) :
    fs.Leads 0 [] place place := by
  induction place using List.reverseRecOn with
  | nil => exact .stay []
  | append_singleton holder name ih =>
    have stands := node?_of_isDirectory directory
    have above := tree.holder stands
    have stepped : fs.Steps holder name (.arrive (holder ++ [name])) :=
      .enter (tree.isFile_eq_false above) (tree.named stands).toIsProper stands rfl
    exact (ih above).append (.arrive stepped (.stay _))

theorem leads_path (tree : fs.IsTree) (directory : fs.isDirectory place = true) :
    fs.Leads 0 [] (Path.segments place.path) place := by
  have top : fs.Steps [] "" (.arrive []) := .stay tree.top (.inl rfl)
  by_cases below : place = []
  · subst below
    exact .arrive top (.arrive top (.stay []))
  · rw [Place.segments_path below fun name listed =>
      (tree.isName_of_mem directory listed).noSlash]
    exact .arrive top (tree.leads_of_isDirectory directory)

/-- The path of a working directory leads back to it from anywhere, if it is not too long. -/
theorem locate_workingDirectory (tree : fs.IsTree) {path : String}
    (told : fs.workingDirectory here = .ok path) (short : path.utf8ByteSize ≤ maxPathBytes)
    (origin : Place) : fs.locate origin path = .ok here := by
  rw [workingDirectory] at told
  split at told
  · next directory =>
    cases told
    have written : '\x00' ∉ here.path.toList :=
      Place.nul_notMem_path fun name listed => (tree.isName_of_mem directory listed).noNul
    rw [locate, if_neg written, if_neg here.path_ne_empty, if_neg (Nat.not_lt.2 short), start,
      if_pos here.isAbsolute_path]
    exact walk_of_leads (tree.leads_path directory) (Nat.zero_le maxLinks)
  · cases told

end IsTree

end FileSystem

end Preflight
