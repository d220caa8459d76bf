import Preflight.Log.Directive

/-!
Filters: which events of a log are shown.

A filter is a list of directives. Of those that cover an event the most specific one decides, and of
two that are equally specific the later. An event that no directive covers is not shown.
-/

namespace Preflight.Log

/-- The rules of a filter in the order in which they were written. -/
structure Filter where
  directives : List Directive
  deriving DecidableEq, Repr

def splitCommas : List Char → List (List Char)
  | [] => [[]]
  | c :: rest =>
      if c = ',' then [] :: splitCommas rest
      else
        match splitCommas rest with
        | [] => [[c]]
        | word :: others => (c :: word) :: others

namespace Filter

def warnings : Filter := ⟨[⟨[], none, none, some .warn⟩]⟩

/-- The filter that a text describes: directives between commas, where empty ones do not count. -/
def parse? (text : String) : Option Filter :=
  (((splitCommas text.toList).filter (!·.isEmpty)).mapM Directive.parse?).map Filter.mk

/-- The filter that the environment asks for; a text that is no filter counts as no wish. -/
def ofSetting (setting : Option String) : Filter :=
  (setting.bind parse?).getD warnings

def deciding? (filter : Filter) (event : Event) : Option Directive :=
  (filter.directives.filter (·.covers event)).foldl
    (fun best directive =>
      match best with
      | none => some directive
      | some other => if directive.isAsSpecific other then some directive else some other)
    none

def shows (filter : Filter) (event : Event) : Bool :=
  match (filter.deciding? event).bind (·.level) with
  | some level => event.level.detail ≤ level.detail
  | none => false

end Filter

end Preflight.Log
