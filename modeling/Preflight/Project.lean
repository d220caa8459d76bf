import Preflight.Layout.Validation

/-!
A project: a root directory and the layout that is expected below it.
-/

namespace Preflight

structure Project where
  root : String
  layout : Layout
  deriving DecidableEq, Repr

namespace Project

/-- The project at a root with the built-in layout. -/
def ofRoot (root : String) : Project := ⟨root, .flutter⟩

/-- The project at a root with a layout, if that is sound. -/
def withLayout (root : String) (layout : Layout) : Except Layout.Violation Project :=
  match layout.validate with
  | .error violation => .error violation
  | .ok () => .ok ⟨root, layout⟩

def resolve (project : Project) (path : String) : String :=
  Path.join project.root path

end Project

end Preflight
