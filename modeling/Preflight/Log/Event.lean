import Preflight.Check.Basic
import Preflight.Terminal.Style
import Preflight.Text.Quoted

/-!
Events that a run may log: what each says, how grave it is, the target and the fields by which a
filter can select it, and the line that it leaves.
-/

namespace Preflight.Log

open Terminal (Span Style)

/-- How grave an event is, the gravest first. -/
inductive Level where
  | error
  | warn
  | info
  | debug
  | trace
  deriving DecidableEq, Repr

namespace Level

/-- The place of a level in the order of detail. -/
def detail : Level → Nat
  | error => 1
  | warn => 2
  | info => 3
  | debug => 4
  | trace => 5

/-- The name of a level, set to the right in five columns. -/
def column : Level → String
  | error => "ERROR"
  | warn => " WARN"
  | info => " INFO"
  | debug => "DEBUG"
  | trace => "TRACE"

/-- The colour of a level, which is closed with everything else. -/
def style : Level → Style
  | error => ⟨[31], 0⟩
  | warn => ⟨[33], 0⟩
  | info => ⟨[32], 0⟩
  | debug => ⟨[34], 0⟩
  | trace => ⟨[35], 0⟩

end Level

inductive Event where
  /-- A run begins at a root. -/
  | running (root : String)
  /-- The bytes of a file have been read. -/
  | readFile (path : String) (bytes : Nat)
  /-- A check leaves out a source that it cannot read. -/
  | skipped (check : Check) (file error : String)
  /-- A check has come to its result. -/
  | finished (check : Check) (passed : Bool) (findings : Nat)
  deriving DecidableEq, Repr

namespace Event

def level : Event → Level
  | running .. => .debug
  | readFile .. => .debug
  | skipped .. => .warn
  | finished .. => .debug

/-- The target of the events that belong to no part of the program in particular. -/
def mainTarget : String := "scaffold_lint"

def checkTarget : Check → String
  | .presence => "scaffold_lint::checks::structure"
  | .imports => "scaffold_lint::checks::imports"
  | .dependencies => "scaffold_lint::checks::dependencies"
  | .statistics => "scaffold_lint::checks::metrics"

def target : Event → String
  | running .. => mainTarget
  | readFile .. => "scaffold_lint::source"
  | skipped check .. => checkTarget check
  | finished .. => mainTarget

def message : Event → String
  | running .. => "running checks"
  | readFile .. => "read file"
  | skipped .. => "skipping unreadable source"
  | finished .. => "check finished"

/-- The fields of an event, each a name and a value; `elapsed` is the time that a finished check
took. -/
def fields (elapsed : String) : Event → List (String × String)
  | running root => [("root", root)]
  | readFile path bytes => [("path", path), ("bytes", toString bytes)]
  | skipped _ file error => [("file", Text.quoted file), ("error", error)]
  | finished check passed findings =>
      [("check", check.title), ("passed", toString passed), ("findings", toString findings),
        ("elapsed", elapsed)]

/-- The names by which a filter can ask for events; what an event says in words counts as a
field. -/
def fieldNames (event : Event) : List String :=
  "message" :: (event.fields "").map (·.1)

/-- A field behind the words of an event. What is quoted in its value is written as it stands. -/
def fieldSpans (field : String × String) : List Span :=
  [.plain " ", .styled .italic field.1, .styled .dimmed "=", .plain field.2]

/-- The line that an event leaves in a log. -/
def spans (time elapsed : String) (event : Event) : List Span :=
  [.styled .dimmed time, .plain " ", .styled event.level.style event.level.column, .plain " ",
      .plain event.message]
    ++ (event.fields elapsed).flatMap fieldSpans ++ [.plain "\n"]

def line (isColoured : Bool) (time elapsed : String) (event : Event) : String :=
  String.join ((event.spans time elapsed).flatMap (·.pieces isColoured))

end Event

end Preflight.Log
