/-!
The four checks of a run and the titles under which they report.
-/

namespace Preflight

inductive Check where
  /-- Every entry of the layout exists. -/
  | presence
  /-- Import targets are relative or exempt. -/
  | imports
  /-- The manifest names every required dependency. -/
  | dependencies
  /-- How many files and lines there are; never fails. -/
  | statistics
  deriving DecidableEq, Repr

namespace Check

def all : List Check := [.presence, .imports, .dependencies, .statistics]

def title : Check → String
  | presence => "Project structure"
  | imports => "Import paths"
  | dependencies => "Manifest dependencies"
  | statistics => "Code statistics"

end Check

end Preflight
