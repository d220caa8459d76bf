import Preflight.Layout.Basic
import Preflight.Path.Basic
import Preflight.Text.Blank

/-!
Which layouts are sound: there is an entry, and the manifest and every entry name something
strictly below the project root.

A path is judged by its components from left to right, and the first fault in the layout, in the
order manifest, first entry, second entry and so on, is the one reported.
-/

namespace Preflight.Layout

inductive Violation where
  | noEntries
  | blankManifest
  /-- A path that names no file. -/
  | namesNothing
  | absolute (path : String)
  | leavesRoot (path : String)
  deriving DecidableEq, Repr

def Violation.message : Violation → String
  | .noEntries => "layout declares no entries"
  | .blankManifest => "layout manifest path is empty"
  | .namesNothing => "layout entry path does not name a file under the project root"
  | .absolute path => "layout path must be relative to the project root: " ++ path
  | .leavesRoot path => "layout path leaves the project root: " ++ path

/-- Judge the components of `path` that are left, when `named` tells whether one before them was a
name. -/
def judgeComponents (path : String) : Bool → List Path.Component → Except Violation Unit
  | named, [] => if named then .ok () else .error .namesNothing
  | _, .top :: _ => .error (.absolute path)
  | _, .parent :: _ => .error (.leavesRoot path)
  | _, .name _ :: rest => judgeComponents path true rest
  | named, .here :: rest => judgeComponents path named rest

/-- Judge a path: it must name something strictly below the root. -/
def judgePath (path : String) : Except Violation Unit :=
  if Text.allBlank path then .error .namesNothing
  else judgeComponents path false (Path.components path)

/-- Judge paths in order, up to the first that fails. -/
def judgePaths : List String → Except Violation Unit
  | [] => .ok ()
  | path :: rest =>
      match judgePath path with
      | .ok () => judgePaths rest
      | .error violation => .error violation

def validate (layout : Layout) : Except Violation Unit :=
  if layout.entries.isEmpty then .error .noEntries
  else if Text.allBlank layout.manifest then .error .blankManifest
  else judgePaths (layout.manifest :: layout.paths)

end Preflight.Layout
