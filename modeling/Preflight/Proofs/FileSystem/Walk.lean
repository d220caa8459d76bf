import Mathlib.Tactic.SplitIfs
import Preflight.FileSystem.Basic
import Preflight.Proofs.Path.Segments
import Preflight.Proofs.Result

/-!
What a walk through a file system sees.

One step of a walk moves to a place or comes to a link; `walkFrom_cons` says that a walk is steps
and nothing else. A walk along a joined path therefore walks the root first, with whatever links
that takes, and goes on from the place it has come to. Below that place, and as long as there are no
links and no steps up, each step depends on the tree below it alone.
-/

namespace Preflight.FileSystem

/-! ## Steps -/

/-- Where one segment leads. -/
inductive Move where
  | arrive (place : Place)
  /-- At a link, which stands for its target. -/
  | divert (target : String)

/-- Where a segment leads from a place. -/
def step (fs : FileSystem) (here : Place) (segment : String) : Except AccessFault Move :=
  if fs.isFile here then .error .notDirectory
  else if segment = "" ∨ segment = "." then .ok (.arrive here)
  else if segment = ".." then .ok (.arrive here.dropLast)
  else if segment.utf8ByteSize > maxNameBytes then .error .nameTooLong
  else
    match fs.node? (here ++ [segment]) with
    | none => .error .notFound
    | some (.link target) => .ok (.divert target)
    | some _ => .ok (.arrive (here ++ [segment]))

section Walks

variable {fs : FileSystem} {follow : Place → List String → Except AccessFault Place}

/-- A walk takes one step and goes on. -/
theorem walkFrom_cons (here : Place) (segment : String) (rest : List String) :
    fs.walkFrom follow here (segment :: rest) =
      match fs.step here segment with
      | .error fault => .error fault
      | .ok (.arrive place) => fs.walkFrom follow place rest
      | .ok (.divert target) => follow (start here target) (Path.segments target ++ rest) := by
  rw [walkFrom, step]
  by_cases blocked : fs.isFile here = true
  · rw [if_pos blocked, if_pos blocked]
  rw [if_neg blocked, if_neg blocked]
  by_cases stays : segment = "" ∨ segment = "."
  · rw [if_pos stays, if_pos stays]
  rw [if_neg stays, if_neg stays]
  by_cases up : segment = ".."
  · rw [if_pos up, if_pos up]
  rw [if_neg up, if_neg up]
  by_cases long : segment.utf8ByteSize > maxNameBytes
  · rw [if_pos long, if_pos long]
  rw [if_neg long, if_neg long]
  cases fs.node? (here ++ [segment]) with
  | none => rfl
  | some node => cases node <;> rfl

/-! ## Walking on -/

/-- A walk in two parts, if what follows links can be cut in two. -/
theorem walkFrom_append {more : List String} (links : Nat)
    (goesOn : ∀ place, fs.walkFrom follow place more = fs.walk links place more)
    (followed : ∀ here segments, ∃ left,
      follow here (segments ++ more) = (follow here segments).bind (fs.walk left · more))
    (here : Place) (segments : List String) :
    ∃ left, fs.walkFrom follow here (segments ++ more) =
      (fs.walkFrom follow here segments).bind (fs.walk left · more) := by
  induction segments generalizing here with
  | nil => exact ⟨links, goesOn here⟩
  | cons segment segments ih =>
    rw [List.cons_append, walkFrom_cons, walkFrom_cons]
    cases fs.step here segment with
    | error fault => exact ⟨0, rfl⟩
    | ok move =>
      cases move with
      | arrive next => exact ih next
      | divert target =>
        -- Only a link leaves the induction, with the segments of its target in front.
        dsimp only
        rw [← List.append_assoc]
        exact followed _ _

/-- A walk along some segments and more walks along the first ones, and goes on from there with the
links that are left. -/
theorem walk_append (links : Nat) (here : Place) (segments more : List String) :
    ∃ left, fs.walk links here (segments ++ more) =
      (fs.walk links here segments).bind (fs.walk left · more) := by
  induction links generalizing here segments with
  | zero => exact walkFrom_append 0 (fun _ => rfl) (fun _ _ => ⟨0, rfl⟩) here segments
  | succ links ih => exact walkFrom_append (links + 1) (fun _ => rfl) ih here segments

end Walks

/-! ## Below a place -/

/-- The tree below a place, as a file system with that place as its top. -/
def below (fs : FileSystem) (place : Place) : FileSystem :=
  ⟨fun names => if names = [] then some .directory else fs.node? (place ++ names)⟩

/-- Whether there are no links anywhere. -/
def Linkless (fs : FileSystem) : Prop :=
  ∀ (place : Place) (target : String), fs.node? place ≠ some (.link target)

theorem isFile_eq_false_iff {fs : FileSystem} {place : Place} :
    fs.isFile place = false ↔ fs.found place = .directory := by
  rw [isFile, found]
  cases fs.node? place with
  | none => simp
  | some node => cases node <;> simp

section Below

variable {fs : FileSystem} {place : Place}

/-- Read from a directory, what stands below it is the same in the tree. -/
theorem found_below (directory : fs.found place = .directory) (names : Place) :
    (fs.below place).found names = fs.found (place ++ names) := by
  cases names with
  | nil =>
    rw [List.append_nil, directory]
    rfl
  | cons name names => rfl

theorem isFile_below (directory : fs.found place = .directory) (names : Place) :
    (fs.below place).isFile names = fs.isFile (place ++ names) := by
  cases names with
  | nil =>
    rw [List.append_nil, isFile_eq_false_iff.2 directory]
    rfl
  | cons name names => rfl

theorem node?_below_concat (names : Place) (name : String) :
    (fs.below place).node? (names ++ [name]) = fs.node? (place ++ names ++ [name]) := by
  rw [below]
  simp

/-- A move in the tree, as a move below the place. -/
def Move.within (place : Place) : Move → Move
  | arrive names => arrive (place ++ names)
  | divert target => divert target

/-- A step that does not go up leads where it leads in the tree. -/
theorem step_below (directory : fs.found place = .directory) (names : Place) {segment : String}
    (noParent : segment ≠ "..") :
    fs.step (place ++ names) segment =
      ((fs.below place).step names segment).map (Move.within place) := by
  rw [step, step, isFile_below directory, node?_below_concat]
  by_cases blocked : fs.isFile (place ++ names) = true
  · rw [if_pos blocked, if_pos blocked]
    rfl
  rw [if_neg blocked, if_neg blocked]
  by_cases stays : segment = "" ∨ segment = "."
  · rw [if_pos stays, if_pos stays]
    rfl
  rw [if_neg stays, if_neg stays, if_neg noParent, if_neg noParent]
  by_cases long : segment.utf8ByteSize > maxNameBytes
  · rw [if_pos long, if_pos long]
    rfl
  rw [if_neg long, if_neg long]
  cases fs.node? (place ++ names ++ [segment]) with
  | none => rfl
  | some node =>
    cases node with
    | link target => rfl
    | _ => simp [Except.map, Move.within]

/-- Without links no step comes to one. -/
theorem step_ne_divert (linkless : fs.Linkless) (here : Place) (segment target : String) :
    fs.step here segment ≠ .ok (.divert target) := by
  rw [step]
  split_ifs <;> try simp
  split
  · simp
  · next h => exact absurd h (linkless _ _)
  · simp

/-- A walk that does not go up leads, below a directory without links in it, where it leads in the
tree, whatever would be done about links. -/
theorem walkFrom_below (directory : fs.found place = .directory)
    (linkless : (fs.below place).Linkless)
    (follow : Place → List String → Except AccessFault Place) (names : Place)
    {segments : List String} (noParent : ".." ∉ segments) :
    fs.walkFrom follow (place ++ names) segments =
      ((fs.below place).walk 0 names segments).map (place ++ ·) := by
  induction segments generalizing names with
  | nil => rfl
  | cons segment segments ih =>
    obtain ⟨first, others⟩ := List.ne_and_not_mem_of_not_mem_cons noParent
    rw [walk, walkFrom_cons, walkFrom_cons, step_below directory names first.symm]
    cases moved : (fs.below place).step names segment with
    | error fault => rfl
    | ok move =>
      cases move with
      | arrive next => exact ih next others
      | divert target => exact absurd moved (step_ne_divert linkless _ _ _)

theorem walk_below (directory : fs.found place = .directory)
    (linkless : (fs.below place).Linkless) (links : Nat) {segments : List String}
    (noParent : ".." ∉ segments) :
    fs.walk links place segments = ((fs.below place).walk 0 [] segments).map (place ++ ·) := by
  -- No link is ever followed, so it does not matter how many may be.
  have walked (follow) := walkFrom_below directory linkless follow [] noParent
  rw [List.append_nil] at walked
  cases links with
  | zero => exact walked _
  | succ links => exact walked _

/-! ## Joined paths -/

theorem walk_of_locate {here : Place} {path : String} (led : fs.locate here path = .ok place) :
    fs.walk maxLinks (start here path) (Path.segments path) = .ok place := by
  rw [locate] at led
  split_ifs at led
  exact led

/-- An empty segment leads nowhere else. -/
theorem eq_of_walk_empty {links : Nat} {here : Place} (led : fs.walk links here [""] = .ok place) :
    here = place := by
  have walked (follow) : fs.walkFrom follow here [""] = .ok place → here = place := by
    intro led
    rw [walkFrom_cons, step] at led
    by_cases blocked : fs.isFile here = true
    · rw [if_pos blocked] at led
      cases led
    · rw [if_neg blocked, if_pos (.inl rfl)] at led
      cases led
      rfl
  cases links with
  | zero => exact walked _ led
  | succ links => exact walked _ led

/-- A walk along a path below a root comes to the place of the root on the way. -/
theorem exists_walk_join {here : Place} {root path : String} (given : root ≠ "")
    (relative : Path.isAbsolute path = false) (led : fs.locate here root = .ok place) :
    ∃ left, fs.walk maxLinks (start here (Path.join root path))
        (Path.segments (Path.join root path)) =
      fs.walk left place (Path.segments path) := by
  obtain ⟨front, joined, ending⟩ := Path.segments_join given relative
  have begun : start here (Path.join root path) = start here root := by
    rw [start, start, Path.isAbsolute_join given relative]
  have whole := walk_of_locate led
  have reached : fs.walk maxLinks (start here root) front = .ok place := by
    rcases ending with same | same
    · rwa [same] at whole
    · -- The root ends in a slash, and the walk along it in an empty segment.
      obtain ⟨left, cut⟩ := fs.walk_append maxLinks (start here root) front [""]
      rw [same, cut] at whole
      cases walked : fs.walk maxLinks (start here root) front with
      | error fault =>
        rw [walked] at whole
        cases whole
      | ok last =>
        rw [walked] at whole
        rw [eq_of_walk_empty whole]
  obtain ⟨left, cut⟩ := fs.walk_append maxLinks (start here root) front (Path.segments path)
  refine ⟨left, ?_⟩
  rw [begun, joined, cut, reached]
  rfl

/-- What is seen of a tree through a path that is spelled out from outside the tree. -/
def seen (tree : FileSystem) (path : String) (segments : List String) : Except AccessFault Found :=
  if '\x00' ∈ path.toList then .error .nulInPath
  else if path.utf8ByteSize > maxPathBytes then .error .nameTooLong
  else (tree.walk 0 [] segments).map tree.found

/-- What is found through a path below a root is what is seen of the tree below the root, if the
path stays below and there are no links in the tree. -/
theorem look_join {here : Place} {root path : String} (given : root ≠ "")
    (inside : Path.StaysBelow path) (led : fs.locate here root = .ok place)
    (directory : fs.found place = .directory) (linkless : (fs.below place).Linkless) :
    fs.look here (Path.join root path) =
      (fs.below place).seen (Path.join root path) (Path.segments path) := by
  obtain ⟨left, walked⟩ := exists_walk_join given inside.relative led
  rw [walk_below directory linkless left inside.noParent] at walked
  rw [look, locate, seen, walked, if_neg (Path.join_ne_empty given)]
  by_cases nul : '\x00' ∈ (Path.join root path).toList
  · rw [if_pos nul, if_pos nul]
    rfl
  rw [if_neg nul, if_neg nul]
  by_cases long : (Path.join root path).utf8ByteSize > maxPathBytes
  · rw [if_pos long, if_pos long]
    rfl
  rw [if_neg long, if_neg long]
  cases (fs.below place).walk 0 [] (Path.segments path) with
  | error fault => rfl
  | ok names => simp only [Except.map, found_below directory names]

end Below

end Preflight.FileSystem

namespace Preflight

/-! ## Faults -/

/-- Whether a fault is one of those that the operating system words. -/
def AccessFault.IsSystem (fault : AccessFault) : Prop :=
  ∀ description, fault ≠ .other description

namespace FileSystem

section Faults

variable {fs : FileSystem} {follow : Place → List String → Except AccessFault Place}
  {here : Place} {fault : AccessFault}

theorem isSystem_of_step {segment : String} (failed : fs.step here segment = .error fault) :
    fault.IsSystem := by
  rintro description rfl
  rw [step] at failed
  split_ifs at failed
  · cases failed
  · cases failed
  · split at failed <;> cases failed

/-- A walk has no other faults than its steps and what follows its links. -/
theorem isSystem_of_walkFrom {segments : List String}
    (followed : ∀ {place : Place} {more : List String} {fault : AccessFault},
      follow place more = .error fault → fault.IsSystem)
    (failed : fs.walkFrom follow here segments = .error fault) : fault.IsSystem := by
  induction segments generalizing here with
  | nil => cases failed
  | cons segment segments ih =>
    rw [walkFrom_cons] at failed
    cases stepped : fs.step here segment with
    | error reason =>
      rw [stepped] at failed
      cases failed
      exact isSystem_of_step stepped
    | ok move =>
      rw [stepped] at failed
      cases move with
      | arrive next => exact ih failed
      | divert target => exact followed failed

theorem isSystem_of_walk {links : Nat} {segments : List String}
    (failed : fs.walk links here segments = .error fault) : fault.IsSystem := by
  induction links generalizing here segments fault with
  | zero =>
    refine isSystem_of_walkFrom ?_ failed
    rintro _ _ _ ⟨⟩ description ⟨⟩
  | succ links ih => exact isSystem_of_walkFrom ih failed

/-- All faults of a file system are the operating system's. -/
theorem isSystem_of_look {path : String} (failed : fs.look here path = .error fault) :
    fault.IsSystem := by
  have located : fs.locate here path = .error fault := by
    rw [look] at failed
    cases led : fs.locate here path with
    | error reason =>
      rw [led] at failed
      cases failed
      rfl
    | ok place =>
      rw [led] at failed
      cases failed
  rw [locate] at located
  split_ifs at located
  · cases located
    exact fun _ other => by cases other
  · cases located
    exact fun _ other => by cases other
  · cases located
    exact fun _ other => by cases other
  · exact isSystem_of_walk located

/-- What is found locked at the end of a path is locked in the file system. -/
theorem exists_node?_of_look_locked {path : String}
    (looked : fs.look here path = .ok (.locked fault)) :
    ∃ place, fs.node? place = some (.locked fault) := by
  obtain ⟨place, -, stands⟩ := exists_of_map_eq_ok looked
  refine ⟨place, ?_⟩
  rw [found] at stands
  split at stands
  · cases stands
  · next reason stored =>
    cases stands
    exact stored
  · cases stands

end Faults

end FileSystem

end Preflight
