import Preflight.Program
import Preflight.Proofs.Check.Confinement

/-!
The root of a run that is given none: the working directory, by its path from the top.
-/

namespace Preflight

/-- A run that is given no root checks its working directory: the path that it takes for the root
leads there from anywhere, and what is reported on it is the same from anywhere. -/
theorem Surroundings.rootFor_workingDirectory {surroundings : Surroundings}
    {options : CommandLine.Options} {fs : FileSystem} {here : Place} {root : String}
    (tree : fs.IsTree) (told : surroundings.workingDirectory = fs.workingDirectory here)
    (unnamed : options.rootDir = none) (settled : surroundings.rootFor options = .ok root)
    (short : root.utf8ByteSize ≤ FileSystem.maxPathBytes) :
    (∀ origin, fs.locate origin root = .ok here) ∧
      ∀ (layout : Layout) (origin : Place),
        Project.run ⟨root, layout⟩ (fs.disk origin) =
          Project.run ⟨root, layout⟩ (fs.disk here) := by
  have rooted : fs.workingDirectory here = .ok root := by
    rw [rootFor, unnamed, told] at settled
    cases path : fs.workingDirectory here with
    | error fault =>
      rw [path] at settled
      cases settled
    | ok path =>
      rw [path] at settled
      cases settled
      rfl
  have absolute : Path.isAbsolute root = true := by
    rw [FileSystem.workingDirectory] at rooted
    split at rooted
    · cases rooted
      exact here.isAbsolute_path
    · cases rooted
  exact ⟨tree.locate_workingDirectory rooted short, fun layout origin =>
    Project.run_eq_of_isAbsolute absolute fs origin here⟩

end Preflight
