/-!
The formats of a report and their names.
-/

namespace Preflight

inductive Format where
  | text
  | json
  deriving DecidableEq, Repr

namespace Format

/-- All formats, in the order in which they are offered. -/
def all : List Format := [.text, .json]

def name : Format → String
  | text => "text"
  | json => "json"

/-- A text in which the capital letters of ASCII are small. -/
def lowered (text : String) : List Char := text.toList.map Char.toLower

def ofName? (name : String) (ignoreCase : Bool) : Option Format :=
  all.find? fun format =>
    if ignoreCase then lowered format.name == lowered name else format.name == name

/-- The wording for a name that no format has. -/
def unknownMessage (name : String) : String := "invalid variant: " ++ name

/-- The format of a name, or the wording for a name that no format has. -/
def read (name : String) (ignoreCase : Bool) : Except String Format :=
  match ofName? name ignoreCase with
  | some format => .ok format
  | none => .error (unknownMessage name)

/-- A format goes by its own name and no other, in capital letters too if case is ignored. -/
theorem ofName?_eq_some_iff {name : String} {ignoreCase : Bool} {format : Format} :
    ofName? name ignoreCase = some format ↔
      if ignoreCase then lowered format.name = lowered name else format.name = name := by
  constructor
  · intro found
    have named := List.find?_some found
    cases ignoreCase <;> simpa using named
  · cases ignoreCase with
    | false =>
      rintro rfl
      cases format <;> rfl
    | true =>
      simp only [if_true]
      intro named
      -- The two names differ in small letters as well.
      rw [ofName?, ← named]
      cases format <;> rfl

/-- What is no name of a format is told back. -/
theorem read_eq_error_iff {name message : String} :
    read name false = .error message ↔
      (∀ format : Format, format.name ≠ name) ∧ message = unknownMessage name := by
  have unnamed : ofName? name false = none ↔ ∀ format : Format, format.name ≠ name := by
    rw [Option.eq_none_iff_forall_ne_some]
    exact forall_congr' fun format => not_congr ofName?_eq_some_iff
  rw [read, ← unnamed]
  cases ofName? name false with
  | none => simp [eq_comm]
  | some format => simp

end Format

end Preflight
