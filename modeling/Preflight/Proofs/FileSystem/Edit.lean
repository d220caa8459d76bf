import Mathlib.Logic.Relation
import Preflight.FileSystem.Edit
import Preflight.Proofs.FileSystem.Tree
import Preflight.Proofs.Result

/-!
What changes to a file system leave as it was.

Writing files and making directories and links adds one node after another: something new in a
directory, or other bytes in a file. What one addition keeps, all of them keep, and so a tree stays
a tree and every path that leads anywhere leads there still. Removing only takes away.
-/

namespace Preflight.FileSystem

/-! ## Additions -/

/-- One node more in a directory, or other bytes in a file. -/
inductive Adds (fs : FileSystem) : FileSystem → Prop where
  | node {holder : Place} {name : String} (node : Node) : fs.isDirectory holder = true →
      IsName name → fs.node? (holder ++ [name]) = none → Adds fs (fs.put (holder ++ [name]) node)
  | bytes {place : Place} {old : List UInt8} (new : List UInt8) :
      fs.node? place = some (.file old) → Adds fs (fs.put place (.file new))

/-- One addition after another. -/
abbrev Grows : FileSystem → FileSystem → Prop := Relation.ReflTransGen Adds

variable {fs other : FileSystem} {here place : Place}

namespace Adds

/-- What stands at a place stays there, and if it is a file it stays one. -/
theorem node?_eq (added : fs.Adds other) {node : Node} (stands : fs.node? place = some node) :
    other.node? place = some node ∨
      ∃ old new, node = .file old ∧ other.node? place = some (.file new) := by
  cases added with
  | @node holder name added _ _ vacant =>
    refine .inl ?_
    rw [node?_put, if_neg, stands]
    rintro rfl
    cases stands.symm.trans vacant
  | @bytes changed old new filed =>
    rw [node?_put]
    split
    · next same =>
      subst same
      cases stands.symm.trans filed
      exact .inr ⟨old, new, rfl, rfl⟩
    · exact .inl stands

theorem isDirectory (added : fs.Adds other) (directory : fs.isDirectory place = true) :
    other.isDirectory place = true := by
  rw [isDirectory_iff] at directory ⊢
  refine directory.imp_right fun stands => ?_
  rcases added.node?_eq stands with same | ⟨_, _, changed, -⟩
  · exact same
  · cases changed

theorem isTree (added : fs.Adds other) (tree : fs.IsTree) : other.IsTree := by
  -- What is added or changed stands in a directory that was there, under a name.
  have held {holder : Place} {name : String} {node : Node}
      (stands : other.node? (holder ++ [name]) = some node) :
      fs.isDirectory holder = true ∧ IsName name := by
    cases added with
    | node _ directory named vacant =>
      rw [node?_put] at stands
      split at stands
      · next same =>
        obtain ⟨rfl, rfl⟩ := List.append_singleton_inj.1 same
        exact ⟨directory, named⟩
      · exact ⟨tree.holder stands, tree.named stands⟩
    | bytes _ filed =>
      rw [node?_put] at stands
      split at stands
      · next same =>
        rw [← same] at filed
        exact ⟨tree.holder filed, tree.named filed⟩
      · exact ⟨tree.holder stands, tree.named stands⟩
  refine ⟨?_, fun stands => added.isDirectory (held stands).1, fun stands => (held stands).2⟩
  cases added with
  | @node holder name _ _ _ _ =>
    rw [isFile, node?_put, if_neg (List.concat_ne_nil name holder).symm]
    exact tree.top
  | bytes _ filed =>
    rw [isFile, node?_put, if_neg]
    · exact tree.top
    · rintro rfl
      have top := tree.top
      rw [isFile, filed] at top
      cases top

/-- A step that succeeds stays as it is. -/
theorem steps (added : fs.Adds other) (tree : fs.IsTree) (settled : fs.IsSettled here)
    {segment : String} {move : Move} (stepped : fs.Steps here segment move) :
    other.Steps here segment move := by
  have entered : other.isFile here = false :=
    (added.isTree tree).isFile_eq_false (added.isDirectory (settled.isDirectory stepped.entered))
  cases stepped with
  | stay _ stays => exact .stay entered stays
  | up _ => exact .up entered
  | enter _ proper stands leads =>
    rcases added.node?_eq stands with same | ⟨old, new, rfl, changed⟩
    · exact .enter entered proper same leads
    · exact .enter entered proper changed leads

theorem leads (added : fs.Adds other) (tree : fs.IsTree) {links : Nat} {segments : List String}
    (settled : fs.IsSettled here) (led : fs.Leads links here segments place) :
    other.Leads links here segments place := by
  induction led with
  | stay here => exact .stay here
  | arrive stepped _ ih =>
    exact .arrive (added.steps tree settled stepped) (ih (tree.isSettled_of_steps settled stepped))
  | divert stepped _ ih =>
    exact .divert (added.steps tree settled stepped) (ih (IsTree.isSettled_start settled _))

end Adds

namespace Grows

theorem isDirectory (grown : fs.Grows other) (directory : fs.isDirectory place = true) :
    other.isDirectory place = true := by
  induction grown with
  | refl => exact directory
  | tail _ added ih => exact added.isDirectory ih

theorem isTree (grown : fs.Grows other) (tree : fs.IsTree) : other.IsTree := by
  induction grown with
  | refl => exact tree
  | tail _ added ih => exact added.isTree ih

/-- Segments lead from a directory where they led. -/
theorem leads (grown : fs.Grows other) (tree : fs.IsTree) {links : Nat} {segments : List String}
    (directory : fs.isDirectory here = true) (led : fs.Leads links here segments place) :
    other.Leads links here segments place := by
  induction grown with
  | refl => exact led
  | tail before added ih =>
    exact added.leads (isTree before tree) (.inl (isDirectory before directory)) ih

/-- A path that leads anywhere leads there still. -/
theorem locate (grown : fs.Grows other) (tree : fs.IsTree) (directory : fs.isDirectory here = true)
    {path : String} (led : fs.locate here path = .ok place) :
    other.locate here path = .ok place := by
  have standing : fs.isDirectory (start here path) = true := by
    rw [start]
    split
    · rfl
    · exact directory
  obtain ⟨links, few, walked⟩ := walk_eq_ok_iff.1 (walk_of_locate led)
  rw [FileSystem.locate] at led ⊢
  split_ifs at led ⊢
  exact walk_of_leads (grown.leads tree standing walked) few

theorem look_directory (grown : fs.Grows other) (tree : fs.IsTree)
    (directory : fs.isDirectory here = true) {path : String}
    (looked : fs.look here path = .ok .directory) : other.look here path = .ok .directory := by
  obtain ⟨place, led, stands⟩ := exists_of_map_eq_ok looked
  have settled := tree.isSettled_of_locate (.inl directory) led
  have standing := settled.isDirectory (isFile_eq_false_iff.2 stands)
  rw [look, grown.locate tree directory led, ← isFile_eq_false_iff.1
    ((grown.isTree tree).isFile_eq_false (grown.isDirectory standing))]
  rfl

end Grows

/-! ## Making directories -/

theorem eq_of_placeFor {holder : Place} {name : String}
    (found : fs.placeFor holder name = .ok place) (spelled : '/' ∉ name.toList) :
    fs.isFile holder = false ∧ IsName name ∧ place = holder ++ [name] := by
  rw [placeFor] at found
  split_ifs at found with blocked dotted nul long
  obtain ⟨notEmpty, notHere, notParent⟩ : name ≠ "" ∧ name ≠ "." ∧ name ≠ ".." := by
    simpa only [not_or] using dotted
  exact ⟨Bool.eq_false_iff.2 blocked,
    ⟨⟨notEmpty, notHere, notParent, Nat.not_lt.1 long⟩, spelled, nul⟩, (Except.ok.inj found).symm⟩

/-- Making a directory where one segment leads, and going on from there. -/
theorem exists_of_makeAlong_cons (tree : fs.IsTree) (settled : fs.IsSettled here) {segment : String}
    {rest : List String} (spelled : '/' ∉ segment.toList)
    (made : fs.makeAlong here (segment :: rest) = .ok (other, place)) :
    ∃ between next links, fs.Grows between ∧ fs.isDirectory here = true ∧
      between.Leads links here [segment] next ∧
      between.makeAlong next rest = .ok (other, place) := by
  have settle {next : Place} (stepped : fs.Steps here segment (.arrive next)) :
      fs.Leads 0 here [segment] next := .arrive stepped (.stay next)
  rw [makeAlong] at made
  by_cases blocked : fs.isFile here = true
  · rw [if_pos blocked] at made
    cases made
  have entered := Bool.eq_false_iff.2 blocked
  have directory := settled.isDirectory entered
  rw [if_neg blocked] at made
  split_ifs at made with stays up
  · exact ⟨fs, here, 0, .refl, directory, settle (.stay entered stays), made⟩
  · cases up
    exact ⟨fs, here.dropLast, 0, .refl, directory, settle (.up entered), made⟩
  · obtain ⟨next, found, made⟩ := exists_of_bind_eq_ok made
    obtain ⟨-, named, rfl⟩ := eq_of_placeFor found spelled
    split at made
    · next vacant =>
      have added : fs.Adds (fs.put (here ++ [segment]) .directory) :=
        .node .directory directory named vacant
      have standing := (added.isTree tree).isFile_eq_false (added.isDirectory directory)
      have stands : (fs.put (here ++ [segment]) .directory).node? (here ++ [segment]) =
          some .directory := by
        rw [node?_put, if_pos rfl]
      exact ⟨_, _, 0, .single added, directory,
        .arrive (.enter standing named.toIsProper stands rfl) (.stay _), made⟩
    · obtain ⟨next, walked, made⟩ := exists_of_bind_eq_ok made
      obtain ⟨links, -, led⟩ := walk_eq_ok_iff.1 walked
      exact ⟨fs, next, links, .refl, directory, led, made⟩
    · next node unlinked stands =>
      have leads : Node.move (here ++ [segment]) node = .arrive (here ++ [segment]) := by
        cases node with
        | link target => exact absurd rfl (unlinked target)
        | _ => rfl
      exact ⟨fs, _, 0, .refl, directory,
        settle (.enter entered named.toIsProper stands leads), made⟩

/-- Making directories along some segments adds to a file system until they lead to a directory. -/
theorem grows_makeAlong (tree : fs.IsTree) (settled : fs.IsSettled here) {segments : List String}
    (spelled : ∀ segment ∈ segments, '/' ∉ segment.toList)
    (made : fs.makeAlong here segments = .ok (other, place)) :
    fs.Grows other ∧ other.isDirectory place = true ∧
      ∃ links, other.Leads links here segments place := by
  induction segments generalizing fs here with
  | nil =>
    rw [makeAlong] at made
    split at made
    · cases made
    · next entered =>
      cases made
      exact ⟨.refl, settled.resolve_right entered, 0, .stay place⟩
  | cons segment segments ih =>
    obtain ⟨first, others⟩ := List.forall_mem_cons.1 spelled
    obtain ⟨between, next, links, grown, directory, led, made⟩ :=
      exists_of_makeAlong_cons tree settled first made
    have grownTree := grown.isTree tree
    have standing := grown.isDirectory directory
    obtain ⟨further, final, more, behind⟩ :=
      ih grownTree (grownTree.isSettled_of_leads (.inl standing) led) others made
    exact ⟨grown.trans further, final, links + more,
      (further.leads grownTree standing led).append behind⟩

/-- The directory that is made for what a path names, and the name in it. -/
theorem grows_makeHolder (tree : fs.IsTree) (directory : fs.isDirectory here = true)
    {path name : String} {holder : Place}
    (made : fs.makeHolder here path = .ok (other, holder, name)) :
    fs.Grows other ∧ other.isDirectory holder = true ∧ '/' ∉ name.toList ∧
      ∃ above, Path.segments path = above ++ [name] ∧
        ∃ links, other.Leads links (start here path) above holder := by
  rw [makeHolder] at made
  split at made
  · cases made
  · next last above split =>
    obtain ⟨⟨grown, standing⟩, walked, same⟩ := exists_of_bind_eq_ok made
    cases same
    have whole : Path.segments path = above.reverse ++ [name] := by
      rw [← List.reverse_cons, ← split, List.reverse_reverse]
    have spelled (segment : String) (listed : segment ∈ above.reverse ++ [name]) :
        '/' ∉ segment.toList := Path.slash_notMem_of_mem_segments (whole ▸ listed)
    obtain ⟨added, final, led⟩ :=
      grows_makeAlong tree (IsTree.isSettled_start (.inl directory) path)
        (fun segment listed => spelled segment (List.mem_append_left _ listed)) walked
    exact ⟨added, final, spelled name List.mem_concat_self, _, whole, led⟩

/-- A path under which a directory has been made leads to a directory, if anywhere. -/
theorem grows_makeDirectory (tree : fs.IsTree) (directory : fs.isDirectory here = true)
    {path : String} (made : fs.makeDirectory here path = .ok other) :
    fs.Grows other ∧ ∀ found, other.look here path = .ok found → found = .directory := by
  obtain ⟨⟨grown, place⟩, walked, same⟩ := exists_of_bind_eq_ok made
  cases same
  obtain ⟨added, final, links, led⟩ :=
    grows_makeAlong tree (IsTree.isSettled_start (.inl directory) path)
      (fun segment listed => Path.slash_notMem_of_mem_segments listed) walked
  refine ⟨added, fun found looked => ?_⟩
  obtain ⟨reached, located, rfl⟩ := exists_of_map_eq_ok looked
  rw [eq_of_locate located led, ← isFile_eq_false_iff]
  exact (added.isTree tree).isFile_eq_false final

/-! ## Writing files -/

/-- The place to write in stands in a directory and is no link, and once there is a file in it, its
name leads there. -/
theorem exists_of_writingPlace (tree : fs.IsTree) {most : Nat} {holder : Place} {name : String}
    (settled : fs.IsSettled holder) (spelled : '/' ∉ name.toList)
    (placed : fs.writingPlace most holder name = .ok place) :
    (∃ above last, fs.isDirectory above = true ∧ IsName last ∧ place = above ++ [last]) ∧
      (∀ target, fs.node? place ≠ some (.link target)) ∧
      ∀ {other : FileSystem} {bytes : List UInt8}, fs.Adds other →
        other.node? place = some (.file bytes) →
        ∃ links, other.Leads links holder [name] place := by
  induction most generalizing holder name with
  | zero => cases placed
  | succ most ih =>
    obtain ⟨next, found, placed⟩ := exists_of_bind_eq_ok placed
    obtain ⟨entered, named, rfl⟩ := eq_of_placeFor found spelled
    have directory := settled.isDirectory entered
    split at placed
    · next target linked =>
      split at placed
      · cases placed
      · next last above split =>
        obtain ⟨origin, walked, placed⟩ := exists_of_bind_eq_ok placed
        have whole : Path.segments target = above.reverse ++ [last] := by
          rw [← List.reverse_cons, ← split, List.reverse_reverse]
        have listed : last ∈ Path.segments target := by
          rw [whole]
          exact List.mem_concat_self
        have begun := IsTree.isSettled_start settled target
        obtain ⟨stands, unlinked, leads⟩ :=
          ih (tree.isSettled_of_walk begun walked) (Path.slash_notMem_of_mem_segments listed) placed
        refine ⟨stands, unlinked, fun added written => ?_⟩
        obtain ⟨links, -, before⟩ := walk_eq_ok_iff.1 walked
        obtain ⟨more, behind⟩ := leads added written
        have diverted : fs.Steps holder name (.divert target) :=
          .enter entered named.toIsProper linked rfl
        refine ⟨links + more + 1, .divert (added.steps tree settled diverted) ?_⟩
        rw [whole, List.append_nil]
        exact (added.leads tree begun before).append behind
    · next unlinked =>
      cases placed
      refine ⟨⟨holder, name, directory, named, rfl⟩, unlinked, fun added written => ?_⟩
      have standing := (added.isTree tree).isFile_eq_false (added.isDirectory directory)
      exact ⟨0, .arrive (.enter standing named.toIsProper written rfl) (.stay _)⟩

/-- Writing in a place without a link adds a file there or changes the bytes of one. -/
theorem adds_file {holder : Place} {name : String} (directory : fs.isDirectory holder = true)
    (named : IsName name) (unlinked : ∀ target, fs.node? (holder ++ [name]) ≠ some (.link target))
    (noDirectory : fs.node? (holder ++ [name]) ≠ some .directory)
    (unlocked : ∀ fault, fs.node? (holder ++ [name]) ≠ some (.locked fault))
    (bytes : List UInt8) : fs.Adds (fs.put (holder ++ [name]) (.file bytes)) := by
  cases stands : fs.node? (holder ++ [name]) with
  | none => exact .node _ directory named stands
  | some node =>
    cases node with
    | file old => exact .bytes bytes stands
    | directory => exact absurd stands noDirectory
    | link target => exact absurd stands (unlinked target)
    | locked fault => exact absurd stands (unlocked fault)

/-- A path under which a file has been written leads to its bytes, if anywhere. -/
theorem grows_write (tree : fs.IsTree) (directory : fs.isDirectory here = true) {path : String}
    {bytes : List UInt8} (written : fs.write here path bytes = .ok other) :
    fs.Grows other ∧ ∀ found, other.look here path = .ok found → found = .file bytes := by
  obtain ⟨⟨grown, holder, name⟩, made, written⟩ := exists_of_bind_eq_ok written
  obtain ⟨before, standing, spelled, above, whole, links, led⟩ :=
    grows_makeHolder tree directory made
  have grownTree := before.isTree tree
  obtain ⟨place, placed, written⟩ := exists_of_bind_eq_ok written
  obtain ⟨⟨front, last, holding, named, rfl⟩, unlinked, leads⟩ :=
    exists_of_writingPlace grownTree (.inl standing) spelled placed
  split at written
  · cases written
  · cases written
  · next noDirectory unlocked =>
    cases written
    have added := adds_file holding named unlinked noDirectory unlocked bytes
    have filed : (grown.put (front ++ [last]) (.file bytes)).node? (front ++ [last]) =
        some (.file bytes) := by
      rw [node?_put, if_pos rfl]
    obtain ⟨more, behind⟩ := leads added filed
    have begun := IsTree.isSettled_start (.inl (before.isDirectory directory)) path
    have onward := (added.leads grownTree begun led).append behind
    rw [← whole] at onward
    refine ⟨before.tail added, fun found looked => ?_⟩
    obtain ⟨reached, located, rfl⟩ := exists_of_map_eq_ok looked
    rw [eq_of_locate located onward, FileSystem.found, filed]

/-- A link is made where nothing was, under the last segment of its path. -/
theorem grows_makeLink (tree : fs.IsTree) (directory : fs.isDirectory here = true)
    {path target : String} (made : fs.makeLink here path target = .ok other) :
    fs.Grows other ∧ ∃ above holder name, Path.segments path = above ++ [name] ∧
      (∃ links, other.Leads links (start here path) above holder) ∧
      other.node? (holder ++ [name]) = some (.link target) := by
  obtain ⟨⟨grown, holder, name⟩, held, made⟩ := exists_of_bind_eq_ok made
  obtain ⟨before, standing, spelled, above, whole, links, led⟩ :=
    grows_makeHolder tree directory held
  obtain ⟨place, found, made⟩ := exists_of_bind_eq_ok made
  obtain ⟨-, named, rfl⟩ := eq_of_placeFor found spelled
  split at made
  · cases made
  · next vacant =>
    cases made
    have added : grown.Adds (grown.put (holder ++ [name]) (.link target)) :=
      .node _ standing named vacant
    have begun := IsTree.isSettled_start (.inl (before.isDirectory directory)) path
    refine ⟨before.tail added, above, holder, name, whole,
      ⟨links, added.leads (before.isTree tree) begun led⟩, ?_⟩
    rw [node?_put, if_pos rfl]

/-! ## Removing -/

/-- Branches taken away: what is left is as it was, and so is the directory that it stands in. -/
structure Drops (fs other : FileSystem) : Prop where
  top : other.node? [] = fs.node? []
  kept {place : Place} {node : Node} :
    other.node? place = some node → fs.node? place = some node
  holder {holder : Place} {name : String} {node : Node} :
    other.node? (holder ++ [name]) = some node → other.node? holder = fs.node? holder

namespace Drops

protected theorem refl (fs : FileSystem) : fs.Drops fs := ⟨rfl, id, fun _ => rfl⟩

theorem prune (fs : FileSystem) {place : Place} (below : place ≠ []) :
    fs.Drops (fs.prune place) where
  top := by
    rw [node?_prune, if_neg]
    rw [List.isPrefixOf_iff_prefix, List.prefix_nil]
    exact below
  kept left := by
    rw [node?_prune] at left
    split at left
    · cases left
    · exact left
  holder left := by
    rw [node?_prune] at left
    split at left
    · cases left
    · next outside =>
      rw [List.isPrefixOf_iff_prefix] at outside
      rw [node?_prune, if_neg]
      rw [List.isPrefixOf_iff_prefix]
      exact fun inside => outside (inside.trans (List.prefix_append _ _))

theorem clear (fs : FileSystem) (place : Place) : fs.Drops (fs.clear place) where
  top := by
    rw [node?_clear, if_neg]
    rw [Bool.and_eq_true, List.isPrefixOf_iff_prefix, List.prefix_nil, bne_iff_ne]
    rintro ⟨same, other⟩
    exact other same.symm
  kept left := by
    rw [node?_clear] at left
    split at left
    · cases left
    · exact left
  holder left := by
    rw [node?_clear] at left
    split at left
    · cases left
    · next outside =>
      rw [Bool.and_eq_true, List.isPrefixOf_iff_prefix, bne_iff_ne] at outside
      rw [node?_clear, if_neg]
      rw [Bool.and_eq_true, List.isPrefixOf_iff_prefix, bne_iff_ne]
      rintro ⟨inside, -⟩
      refine outside ⟨inside.trans (List.prefix_append _ _), fun same => ?_⟩
      have length := inside.length_le
      rw [← same, List.length_append, List.length_singleton] at length
      omega

theorem isTree (dropped : fs.Drops other) (tree : fs.IsTree) : other.IsTree where
  top := by
    rw [isFile, dropped.top]
    exact tree.top
  holder left := by
    rw [isDirectory, dropped.holder left]
    exact tree.holder (dropped.kept left)
  named left := tree.named (dropped.kept left)

/-- A step that succeeds among what is left has succeeded before. What it comes to is a directory
that was there before or a file that is there still. -/
theorem steps (dropped : fs.Drops other) (tree : fs.IsTree)
    (standing : fs.isDirectory here = true ∨ other.isFile here = true) {segment : String}
    {move : Move} (stepped : other.Steps here segment move) :
    fs.Steps here segment move ∧ ∀ next, move = .arrive next →
      fs.isDirectory next = true ∨ other.isFile next = true := by
  have directory : fs.isDirectory here = true := by
    refine standing.resolve_right ?_
    rw [stepped.entered]
    exact Bool.false_ne_true
  have entered := tree.isFile_eq_false directory
  cases stepped with
  | stay _ stays =>
    refine ⟨.stay entered stays, fun next same => .inl ?_⟩
    cases same
    exact directory
  | up _ =>
    refine ⟨.up entered, fun next same => .inl ?_⟩
    cases same
    exact tree.isDirectory_dropLast directory
  | @enter _ _ node _ proper left leads =>
    have stood := dropped.kept left
    refine ⟨.enter entered proper stood leads, fun next same => ?_⟩
    subst same
    cases node with
    | directory =>
      cases leads
      exact .inl (isDirectory_iff.2 (.inr stood))
    | link target => cases leads
    | file bytes =>
      cases leads
      exact .inr (by rw [isFile, left])
    | locked fault =>
      cases leads
      exact .inr (by rw [isFile, left])

/-- What can still be reached is where it was. -/
theorem leads (dropped : fs.Drops other) (tree : fs.IsTree) {links : Nat} {segments : List String}
    (standing : fs.isDirectory here = true ∨ other.isFile here = true)
    (led : other.Leads links here segments place) : fs.Leads links here segments place := by
  induction led with
  | stay here => exact .stay here
  | arrive stepped _ ih =>
    obtain ⟨before, reached⟩ := dropped.steps tree standing stepped
    exact .arrive before (ih (reached _ rfl))
  | @divert links here _ _ target _ stepped _ ih =>
    refine .divert (dropped.steps tree standing stepped).1 (ih ?_)
    rw [start]
    split
    · exact .inl rfl
    · exact standing

end Drops

theorem drops_clearAlong (fs : FileSystem) (origin : Place) (segments : List String) :
    fs.Drops (fs.clearAlong origin segments) := by
  rw [clearAlong]
  split
  · split
    · exact .clear fs _
    · exact .refl fs
  · exact .refl fs

theorem drops_remove (fs : FileSystem) (here : Place) (path : String) :
    fs.Drops (fs.remove here path) := by
  rw [remove]
  split
  · exact .refl fs
  · split
    · exact .refl fs
    · split
      · exact drops_clearAlong fs _ _
      · split
        · dsimp only
          split
          · exact .prune fs (List.concat_ne_nil _ _)
          · exact drops_clearAlong fs _ _
        · exact .refl fs

/-- The tree without the branch that a path with a name at its end leads to. -/
theorem remove_eq_prune {path name : String} {above : List String} {holder : Place}
    (short : path.utf8ByteSize ≤ maxPathBytes) (whole : Path.segments path = above ++ [name])
    (named : IsName name)
    (walked : fs.walk maxLinks (start here path) above = .ok holder) :
    fs.remove here path = fs.prune (holder ++ [name]) := by
  have filled : (name :: above.reverse).dropWhile (· = "") = name :: above.reverse :=
    List.dropWhile_cons_of_neg (by simpa using named.notEmpty)
  have last : ¬(name = "." ∨ name = "..") := not_or.2 ⟨named.notHere, named.notParent⟩
  have ending : (above ++ [name]).getLast? ≠ some "" := by
    rw [List.getLast?_concat]
    exact fun same => named.notEmpty (Option.some.inj same)
  rw [remove, if_neg (Nat.not_lt.2 short), whole, List.reverse_concat, filled]
  dsimp only
  rw [if_neg last, List.reverse_reverse, walked]
  dsimp only
  rw [if_pos (.inl ending)]

/-- A path with a name at its end leads nowhere after what it names has been removed. -/
theorem locate_remove (tree : fs.IsTree) (directory : fs.isDirectory here = true)
    {path name : String} {above : List String} (whole : Path.segments path = above ++ [name])
    (named : IsName name) : (fs.remove here path).locate here path ≠ .ok place := by
  intro located
  have short : path.utf8ByteSize ≤ maxPathBytes := by
    rw [locate] at located
    split_ifs at located with nul empty long
    exact Nat.not_lt.1 long
  have standing : fs.isDirectory (start here path) = true ∨
      (fs.remove here path).isFile (start here path) = true := by
    rw [start]
    split
    · exact .inl rfl
    · exact .inl directory
  obtain ⟨links, few, led⟩ := walk_eq_ok_iff.1 (walk_of_locate located)
  rw [whole] at led
  obtain ⟨first, more, holder, sum, before, behind⟩ := led.exists_between
  have walked : fs.walk maxLinks (start here path) above = .ok holder :=
    walk_of_leads ((drops_remove fs here path).leads tree standing before) (by omega)
  rw [remove_eq_prune short whole named walked] at behind
  -- Nothing has the name any more, so no step leads to it.
  have vacant : (fs.prune (holder ++ [name])).node? (holder ++ [name]) = none := by
    rw [node?_prune]
    exact if_pos (List.isPrefixOf_iff_prefix.2 (List.prefix_refl _))
  have missing (move : Move) : ¬(fs.prune (holder ++ [name])).Steps holder name move := by
    intro stepped
    cases stepped with
    | stay _ stays => exact stays.elim named.notEmpty named.notHere
    | up _ => exact named.notParent rfl
    | enter _ _ stands _ => cases vacant.symm.trans stands
  cases behind with
  | arrive stepped _ => exact missing _ stepped
  | divert stepped _ => exact missing _ stepped

/-! ## Any changes -/

/-- The file systems that come about by changes made from directories, one after another, with
nothing to begin with. -/
inductive IsBuilt : FileSystem → Prop where
  | empty : IsBuilt .empty
  | makeDirectory {fs other : FileSystem} {here : Place} {path : String} : IsBuilt fs →
      fs.isDirectory here = true → fs.makeDirectory here path = .ok other → IsBuilt other
  | write {fs other : FileSystem} {here : Place} {path : String} {bytes : List UInt8} :
      IsBuilt fs → fs.isDirectory here = true → fs.write here path bytes = .ok other → IsBuilt other
  | makeLink {fs other : FileSystem} {here : Place} {path target : String} : IsBuilt fs →
      fs.isDirectory here = true → fs.makeLink here path target = .ok other → IsBuilt other
  | remove {fs : FileSystem} (here : Place) (path : String) : IsBuilt fs →
      IsBuilt (fs.remove here path)

theorem IsBuilt.isTree (built : fs.IsBuilt) : fs.IsTree := by
  induction built with
  | empty => exact isTree_empty
  | makeDirectory _ directory made ih => exact (grows_makeDirectory ih directory made).1.isTree ih
  | write _ directory written ih => exact (grows_write ih directory written).1.isTree ih
  | makeLink _ directory made ih => exact (grows_makeLink ih directory made).1.isTree ih
  | @remove fs here path _ ih => exact (drops_remove fs here path).isTree ih

end Preflight.FileSystem
