import Preflight.Log.Pattern.Class
import Preflight.Text.Alphanumeric

/-!
Groups of a pattern: what stands behind the parenthesis that opens one, and what a group holds while
it is read.

A group has alternatives, and each of them is a row of items. The switches that a group turns are
its own: the group around it goes on with those that it had.
-/

namespace Preflight.Log.Pattern

/-! ## Behind the parenthesis -/

inductive Opening where
  /-- A group with its switches, and perhaps with a name. -/
  | group (switches : Switches) (name : Option (List Char))
  /-- Nothing: it turns switches of the group that it stands in. -/
  | turned (switches : Switches)
  deriving DecidableEq, Repr

/-- Whether a text can be the name of a group. -/
def isGroupName : List Char → Bool
  | [] => false
  | c :: rest =>
      (c = '_' || Text.isAlphabetic c)
        && rest.all fun d => "_.[]".toList.contains d || Text.isAlphanumeric d

/-- Read the name of a group up to the bracket that closes it. -/
def readGroupName? (switches : Switches) (text : List Char) : Option (Opening × List Char) :=
  let name := text.takeWhile (· != '>')
  match text.drop name.length with
  | '>' :: rest => if isGroupName name then some (.group switches (some name), rest) else none
  | _ => none

/-- Read the letters of switches up to the colon, behind which their group begins, or up to a
closing parenthesis. -/
def readTurn? (switches : Switches) (text : List Char) : Option (Opening × List Char) :=
  let written := text.takeWhile fun c => c != ':' && c != ')'
  if !Switches.areLetters written then none
  else
    match text.drop written.length with
    | ':' :: rest => some (.group (switches.turn written) none, rest)
    | ')' :: rest => if written.isEmpty then none else some (.turned (switches.turn written), rest)
    | _ => none

def readOpening? (switches : Switches) (text : List Char) : Option (Opening × List Char) :=
  match switches.skip text with
  | '?' :: 'P' :: '<' :: rest => readGroupName? switches rest
  | '?' :: '<' :: rest => readGroupName? switches rest
  | '?' :: rest => readTurn? switches rest
  | rest => some (.group switches none, rest)

/-! ## What a group holds -/

/-- An item of a group: how deeply it is nested, and whether it can be repeated. -/
structure Item where
  depth : Nat
  repeatable : Bool
  deriving DecidableEq, Repr

structure OpenGroup where
  switches : Switches
  /-- How deeply the alternatives that have been read are nested. -/
  alternatives : List Nat
  /-- The items of the alternative that is being read, the last one first. -/
  items : List Item
  deriving DecidableEq, Repr

namespace OpenGroup

def start (switches : Switches) : OpenGroup := ⟨switches, [], []⟩

/-- Add an item that can be repeated. -/
def add (group : OpenGroup) (depth : Nat) : OpenGroup :=
  { group with items := ⟨depth, true⟩ :: group.items }

/-- Turn the switches for the rest of the group. -/
def turn (group : OpenGroup) (switches : Switches) : OpenGroup :=
  { group with switches, items := ⟨0, false⟩ :: group.items }

/-- Repeat the last item, if there is one that can be repeated. -/
def repeat? (group : OpenGroup) : Option OpenGroup :=
  match group.items with
  | ⟨depth, true⟩ :: items => some { group with items := ⟨depth + 1, true⟩ :: items }
  | _ => none

/-- How deeply the alternative that is being read is nested. -/
def rowDepth (group : OpenGroup) : Nat :=
  depthOfAll (group.items.map (·.depth))

def branch (group : OpenGroup) : OpenGroup :=
  { group with alternatives := group.rowDepth :: group.alternatives, items := [] }

/-- How deeply all that the group holds is nested. -/
def depth (group : OpenGroup) : Nat :=
  depthOfAll (group.rowDepth :: group.alternatives)

end OpenGroup

end Preflight.Log.Pattern
