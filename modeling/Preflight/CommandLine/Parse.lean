import Preflight.CommandLine.UsageError

/-!
Understanding a command line, word by word.

An option without a value attached waits for the next word. What it was given is judged only when
the next argument has been recognised, or at the end; so a word that is no argument at all is
reported before a value that is wrong. A call for help or for the version is answered as soon as it
is reached.
-/

namespace Preflight.CommandLine

/-- What has been understood so far. `waiting` is the option last met, with its value if that has
come. -/
structure Progress where
  given : List Argument
  rootDir : Option String
  layout : Option String
  format : Option Format
  waiting : Option (Argument × Option String)

namespace Progress

def blank : Progress := ⟨[], none, none, none, none⟩

/-- Record the value of an option that has not been given before. -/
def record (progress : Progress) (option : Argument) (value : String) :
    Except UsageError Progress :=
  if value = "" then .error (.valueRequired option)
  else
    let progress := { progress with given := progress.given ++ [option], waiting := none }
    match option with
    | .rootDir => .ok { progress with rootDir := some value }
    | .layout => .ok { progress with layout := some value }
    | .format =>
        match Format.ofName? value false with
        | some format => .ok { progress with format := some format }
        | none => .error (.invalidValue .format value)
    | _ => .ok progress

/-- Judge the option that waits, if there is one. -/
def settle (progress : Progress) : Except UsageError Progress :=
  match progress.waiting with
  | none => .ok progress
  | some (option, none) => .error (.valueRequired option)
  | some (option, some value) =>
      if option ∈ progress.given then .error (.repeatedArgument option)
      else progress.record option value

/-- The arguments that count as given when a word turns out to be none: the option that waits is one
if it has a value, whatever that is, but not if it comes a second time. -/
def used (progress : Progress) : List Argument :=
  match progress.waiting with
  | some (option, some _) =>
      if option ∈ progress.given then progress.given.erase option
      else progress.given ++ [option]
  | _ => progress.given

def raise (progress : Progress) (flag : Argument) : Except UsageError Progress :=
  if flag ∈ progress.given then .error (.repeatedArgument flag)
  else .ok { progress with given := progress.given ++ [flag] }

/-- The options at the end of the command line. -/
def options (progress : Progress) : Options where
  rootDir := progress.rootDir
  layout := progress.layout
  format := progress.format.getD .text
  reportOnly := decide (.reportOnly ∈ progress.given)
  printLayout := decide (.printLayout ∈ progress.given)

/-- The request of a command line that ends here. -/
def finish (progress : Progress) : Except UsageError Request :=
  progress.settle.map fun progress => .run progress.options

end Progress

/-- The part of a word before the first equals sign, and the part after it, if there is one. -/
def splitEquals (word : List Char) : List Char × Option (List Char) :=
  match word.dropWhile (· != '=') with
  | [] => (word, none)
  | _ :: value => (word.takeWhile (· != '='), some value)

/-- The argument whose name is most like the one written. -/
def meantFor? (written : String) : Option Argument :=
  (suggest? written (Argument.all.map (·.long))).bind Argument.ofLong?

inductive Word where
  /-- Two dashes, which end the arguments. -/
  | stop
  /-- Two dashes, a name, and perhaps a value behind an equals sign. -/
  | long (name : String) (value : Option String)
  /-- One dash and a letter; what follows the letter does not matter. -/
  | short (letter : Char)
  | plain
  deriving DecidableEq, Repr

def Word.ofString (word : String) : Word :=
  match word.toList with
  | ['-', '-'] => .stop
  | '-' :: '-' :: rest =>
      let (name, value) := splitEquals rest
      .long (String.ofList name) (value.map String.ofList)
  | '-' :: letter :: _ => .short letter
  | _ => .plain

def understand (progress : Progress) : List String → Except UsageError Request
  | [] => progress.finish
  | word :: rest =>
      match Word.ofString word with
      | .stop =>
          match rest with
          | [] => progress.finish
          | extra :: _ => .error (.unexpectedArgument extra none [])
      | .long name value =>
          match Argument.ofLong? name with
          | none => .error (.unexpectedArgument ("--" ++ name) (meantFor? name) progress.used)
          | some argument =>
              match argument.valueName?, value with
              | some _, none => do
                  let progress ← progress.settle
                  understand { progress with waiting := some (argument, none) } rest
              | some _, some value => do
                  let progress ← progress.settle
                  let progress ← { progress with waiting := some (argument, some value) }.settle
                  understand progress rest
              | none, some value => .error (.unexpectedValue argument value progress.given)
              | none, none => do
                  let progress ← progress.settle
                  match argument with
                  | .help => return .help true
                  | .version => return .version
                  | flag =>
                      let progress ← progress.raise flag
                      understand progress rest
      | .short 'h' => progress.settle.map fun _ => .help false
      | .short 'V' => progress.settle.map fun _ => .version
      | .short letter =>
          .error (.unexpectedArgument (String.ofList ['-', letter]) none [])
      | .plain =>
          match progress.waiting with
          | some (option, none) =>
              understand { progress with waiting := some (option, some word) } rest
          | _ => .error (.unexpectedArgument word none [])

def parse (words : List String) : Except UsageError Request :=
  understand .blank words

end Preflight.CommandLine
