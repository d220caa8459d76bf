import Preflight.Program

/-!
Surroundings from observations: what has been looked up beforehand is all that a run can see. The
paths that a run asks for are known before it begins, so looking them up first changes nothing.
-/

namespace Preflight

/-- The disk on which each of some paths leads where it was seen to lead, and no other leads
anywhere. -/
def Disk.ofObservations (seen : List (String × Except AccessFault Found)) : Disk :=
  .ofLook fun path => ((seen.find? (·.1 == path)).map (·.2)).getD (.error .notFound)

/-- The environment in which some variables have been looked up and no other is set. -/
def Terminal.Environment.ofObservations (seen : List (String × Option String)) :
    Terminal.Environment :=
  fun name => (seen.find? (·.1 == name)).bind (·.2)

namespace Program

/-- The variables of the environment that a run may look at. -/
def settings : List String := "RUST_LOG" :: Terminal.colourVariables

/-- The paths of a project that its checks may look at. -/
def paths (project : Project) : List String :=
  (project.layout.manifest :: project.layout.paths).map project.resolve

end Program

end Preflight
