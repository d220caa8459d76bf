import Preflight.Proofs.FileSystem.Walk

/-!
Walks told by their steps.

A walk that comes to a place takes steps and follows links, and how many links it may follow counts
only while there are too few. So where segments lead is a relation with a count of links. It says
when a walk succeeds, and unlike the walk it can be put together from parts.
-/

namespace Preflight.FileSystem

/-- Where a walk goes when it comes to a node at a place. -/
def Node.move (place : Place) : Node → Move
  | .link target => .divert target
  | _ => .arrive place

/-- A segment that is looked for in a directory, as the dots and what is empty are not. -/
structure IsProper (segment : String) : Prop where
  notEmpty : segment ≠ ""
  notHere : segment ≠ "."
  notParent : segment ≠ ".."
  short : segment.utf8ByteSize ≤ maxNameBytes

/-- The steps that succeed. None of them is taken in a file. -/
inductive Steps (fs : FileSystem) (here : Place) : String → Move → Prop where
  | stay {segment : String} : fs.isFile here = false → segment = "" ∨ segment = "." →
      Steps fs here segment (.arrive here)
  | up : fs.isFile here = false → Steps fs here ".." (.arrive here.dropLast)
  | enter {segment : String} {move : Move} {node : Node} : fs.isFile here = false →
      IsProper segment → fs.node? (here ++ [segment]) = some node →
      Node.move (here ++ [segment]) node = move → Steps fs here segment move

/-- Whether some segments lead from one place to another by following this many links. -/
inductive Leads (fs : FileSystem) : Nat → Place → List String → Place → Prop where
  | stay (here : Place) : Leads fs 0 here [] here
  | arrive {links : Nat} {here next place : Place} {segment : String} {rest : List String} :
      fs.Steps here segment (.arrive next) → Leads fs links next rest place →
      Leads fs links here (segment :: rest) place
  | divert {links : Nat} {here place : Place} {segment target : String} {rest : List String} :
      fs.Steps here segment (.divert target) →
      Leads fs links (start here target) (Path.segments target ++ rest) place →
      Leads fs (links + 1) here (segment :: rest) place

variable {fs : FileSystem} {here place : Place} {segments : List String} {links : Nat}

/-! ## Steps -/

theorem Steps.entered {segment : String} {move : Move} (stepped : fs.Steps here segment move) :
    fs.isFile here = false := by
  cases stepped with
  | stay entered _ => exact entered
  | up entered => exact entered
  | enter entered _ _ _ => exact entered

theorem IsProper.step_eq {segment : String} (proper : IsProper segment)
    (entered : fs.isFile here = false) :
    fs.step here segment =
      match fs.node? (here ++ [segment]) with
      | none => .error .notFound
      | some node => .ok (Node.move (here ++ [segment]) node) := by
  rw [step, if_neg (by rw [entered]; exact Bool.false_ne_true),
    if_neg (not_or.2 ⟨proper.notEmpty, proper.notHere⟩), if_neg proper.notParent,
    if_neg (Nat.not_lt.2 proper.short)]
  cases fs.node? (here ++ [segment]) with
  | none => rfl
  | some node => cases node <;> rfl

theorem step_eq_ok_iff {segment : String} {move : Move} :
    fs.step here segment = .ok move ↔ fs.Steps here segment move := by
  constructor
  · intro stepped
    by_cases blocked : fs.isFile here = true
    · rw [step, if_pos blocked] at stepped
      cases stepped
    have entered := Bool.eq_false_iff.2 blocked
    by_cases stays : segment = "" ∨ segment = "."
    · rw [step, if_neg blocked, if_pos stays] at stepped
      cases stepped
      exact .stay entered stays
    by_cases up : segment = ".."
    · rw [step, if_neg blocked, if_neg stays, if_pos up] at stepped
      cases stepped
      cases up
      exact .up entered
    by_cases long : segment.utf8ByteSize > maxNameBytes
    · rw [step, if_neg blocked, if_neg stays, if_neg up, if_pos long] at stepped
      cases stepped
    obtain ⟨notEmpty, notHere⟩ := not_or.1 stays
    have proper : IsProper segment := ⟨notEmpty, notHere, up, Nat.not_lt.1 long⟩
    rw [proper.step_eq entered] at stepped
    cases stands : fs.node? (here ++ [segment]) with
    | none =>
      rw [stands] at stepped
      cases stepped
    | some node =>
      rw [stands] at stepped
      exact .enter entered proper stands (Except.ok.inj stepped)
  · intro stepped
    cases stepped with
    | stay entered stays =>
      rw [step, if_neg (by rw [entered]; exact Bool.false_ne_true), if_pos stays]
    | up entered =>
      rw [step, if_neg (by rw [entered]; exact Bool.false_ne_true), if_neg (by decide), if_pos rfl]
    | enter entered proper stands leads =>
      cases leads
      rw [proper.step_eq entered, stands]

theorem Steps.unique {segment : String} {move other : Move} (stepped : fs.Steps here segment move)
    (also : fs.Steps here segment other) : move = other :=
  Except.ok.inj ((step_eq_ok_iff.2 stepped).symm.trans (step_eq_ok_iff.2 also))

/-! ## Walks -/

theorem walk_nil (links : Nat) (here : Place) : fs.walk links here [] = .ok here := by
  cases links <;> rfl

theorem walk_of_arrive {next : Place} {segment : String} (rest : List String)
    (stepped : fs.Steps here segment (.arrive next)) :
    fs.walk links here (segment :: rest) = fs.walk links next rest := by
  cases links <;> rw [walk, walkFrom_cons, step_eq_ok_iff.2 stepped]

theorem walk_of_divert {segment target : String} (rest : List String)
    (stepped : fs.Steps here segment (.divert target)) :
    fs.walk (links + 1) here (segment :: rest) =
      fs.walk links (start here target) (Path.segments target ++ rest) := by
  rw [walk, walkFrom_cons, step_eq_ok_iff.2 stepped]

theorem walk_of_leads {most : Nat} (led : fs.Leads links here segments place)
    (enough : links ≤ most) : fs.walk most here segments = .ok place := by
  induction led generalizing most with
  | stay here => exact walk_nil most here
  | arrive stepped _ ih => exact (walk_of_arrive _ stepped).trans (ih enough)
  | divert stepped _ ih =>
    obtain ⟨most, rfl⟩ := Nat.exists_eq_add_one.2 (Nat.lt_of_lt_of_le (Nat.succ_pos _) enough)
    exact (walk_of_divert _ stepped).trans (ih (Nat.le_of_succ_le_succ enough))

/-- A walk that comes to a place has led there, if what follows its links has. -/
theorem exists_leads_of_walkFrom {most : Nat}
    {follow : Place → List String → Except AccessFault Place}
    (followed : ∀ {here : Place} {segments : List String}, follow here segments = .ok place →
      ∃ links, links < most ∧ fs.Leads links here segments place)
    (walked : fs.walkFrom follow here segments = .ok place) :
    ∃ links, links ≤ most ∧ fs.Leads links here segments place := by
  induction segments generalizing here with
  | nil =>
    cases walked
    exact ⟨0, Nat.zero_le most, .stay place⟩
  | cons segment segments ih =>
    rw [walkFrom_cons] at walked
    cases stepped : fs.step here segment with
    | error fault =>
      rw [stepped] at walked
      cases walked
    | ok move =>
      rw [stepped] at walked
      cases move with
      | arrive next =>
        obtain ⟨links, few, led⟩ := ih walked
        exact ⟨links, few, .arrive (step_eq_ok_iff.1 stepped) led⟩
      | divert target =>
        obtain ⟨links, few, led⟩ := followed walked
        exact ⟨links + 1, few, .divert (step_eq_ok_iff.1 stepped) led⟩

/-- A walk comes to a place when its segments lead there by no more links than it may follow. -/
theorem walk_eq_ok_iff {most : Nat} :
    fs.walk most here segments = .ok place ↔
      ∃ links, links ≤ most ∧ fs.Leads links here segments place := by
  constructor
  · intro walked
    induction most generalizing here segments with
    | zero => exact exists_leads_of_walkFrom (fun failed => by cases failed) walked
    | succ most ih =>
      refine exists_leads_of_walkFrom (fun further => ?_) walked
      obtain ⟨links, few, led⟩ := ih further
      exact ⟨links, Nat.lt_succ_of_le few, led⟩
  · rintro ⟨links, few, led⟩
    exact walk_of_leads led few

/-! ## Parts of walks -/

/-- Segments lead on from where the segments in front of them lead. -/
theorem Leads.append {more : Nat} {next : Place} {rest : List String}
    (led : fs.Leads links here segments next) (on : fs.Leads more next rest place) :
    fs.Leads (links + more) here (segments ++ rest) place := by
  induction led with
  | stay here => rwa [Nat.zero_add]
  | arrive stepped _ ih => exact .arrive stepped (ih on)
  | divert stepped _ ih =>
    have behind := ih on
    rw [List.append_assoc] at behind
    rw [Nat.add_right_comm]
    exact .divert stepped behind

/-- Where segments lead, the first of them lead on the way. -/
theorem Leads.exists_between {front back : List String}
    (led : fs.Leads links here (front ++ back) place) :
    ∃ first more next, first + more = links ∧ fs.Leads first here front next ∧
      fs.Leads more next back place := by
  generalize whole : front ++ back = segments at led
  induction led generalizing front with
  | stay here =>
    obtain ⟨rfl, rfl⟩ := List.append_eq_nil_iff.1 whole
    exact ⟨0, 0, here, rfl, .stay here, .stay here⟩
  | @arrive links _ _ _ _ _ stepped led ih =>
    cases front with
    | nil =>
      cases whole
      exact ⟨0, links, _, Nat.zero_add links, .stay _, .arrive stepped led⟩
    | cons segment front =>
      cases whole
      obtain ⟨first, more, next, sum, before, behind⟩ := ih rfl
      exact ⟨first, more, next, sum, .arrive stepped before, behind⟩
  | @divert links _ _ _ _ _ stepped led ih =>
    cases front with
    | nil =>
      cases whole
      exact ⟨0, links + 1, _, Nat.zero_add _, .stay _, .divert stepped led⟩
    | cons segment front =>
      cases whole
      obtain ⟨first, more, next, sum, before, behind⟩ := ih (List.append_assoc _ _ _)
      exact ⟨first + 1, more, next, by omega, .divert stepped before, behind⟩

/-- Segments lead to one place. -/
theorem Leads.unique {more : Nat} {other : Place} (led : fs.Leads links here segments place)
    (also : fs.Leads more here segments other) : place = other := by
  induction led generalizing more with
  | stay here =>
    cases also
    rfl
  | arrive stepped _ ih =>
    cases also with
    | arrive again on =>
      cases stepped.unique again
      exact ih on
    | divert again on => cases stepped.unique again
  | divert stepped _ ih =>
    cases also with
    | arrive again on => cases stepped.unique again
    | divert again on =>
      cases stepped.unique again
      exact ih on

/-- A path that can be followed leads where its segments lead. -/
theorem eq_of_locate {path : String} {found : Place}
    (located : fs.locate here path = .ok found)
    (led : fs.Leads links (start here path) (Path.segments path) place) : found = place := by
  obtain ⟨_, -, also⟩ := walk_eq_ok_iff.1 (walk_of_locate located)
  exact also.unique led

end Preflight.FileSystem
