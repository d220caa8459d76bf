import Preflight.CommandLine.Palette
import Preflight.CommandLine.Similarity

/-!
Why a command line is not understood, and the wording: what is wrong, what could have been meant,
and how the program is used.
-/

namespace Preflight.CommandLine

open Terminal (Span)

inductive UsageError where
  /-- Something that is no argument. When it looks like a long one, `given` are the arguments that
  came before it and `meant` is the one it may be meant for. -/
  | unexpectedArgument (written : String) (meant : Option Argument) (given : List Argument)
  | valueRequired (argument : Argument)
  | invalidValue (argument : Argument) (written : String)
  | repeatedArgument (argument : Argument)
  /-- A flag with a value, after the arguments `given`. -/
  | unexpectedValue (flag : Argument) (written : String) (given : List Argument)
  deriving DecidableEq, Repr

/-- The line that says how the program is used, from its parts. -/
def usageLine (parts : List (List Span)) : List Span :=
  [.styled Palette.heading "Usage:", .plain " ", .styled Palette.literal programName]
    ++ parts.flatMap fun part => .plain " " :: part

def generalUsage : List Span := usageLine [[.plain "[OPTIONS]"]]

/-- How the program is used with some arguments, or in general if there are none. -/
def usageWith (arguments : List Argument) : List Span :=
  if arguments.isEmpty then generalUsage else usageLine (arguments.map (·.spans))

/-- How the program is used with a flag after other arguments. All settings are then named together,
and the flag only if it is none of them. -/
def usageOfFlag (flag : Argument) (given : List Argument) : List Span :=
  if given.isEmpty then usageLine [flag.spans]
  else
    usageLine
      ((if flag ∈ Argument.settings then [] else [flag.spans])
        ++ [[.plain (choice Argument.settings)]])

/-- Texts of one look, with commas between them. -/
def listed (style : Terminal.Style) (texts : List String) : List Span :=
  [Span.plain ", "].intercalate (texts.map fun text => [.styled style text])

/-- The line that lists the possible values of an argument, if they are few. -/
def possibleLine (argument : Argument) : List Span :=
  if argument.possibleValues.isEmpty then []
  else
    [.plain "  [possible values: "] ++ listed Palette.good argument.possibleValues
      ++ [.plain "]\n"]

/-- The line that offers something similar: an argument or a value. -/
def tipLine (kind text : String) : List Span :=
  [.plain "  ", .styled Palette.good "tip:", .plain (" a similar " ++ kind ++ " exists: '"),
    .styled Palette.good text, .plain "'\n"]

/-- The arguments without those that came earlier. -/
def distinct (arguments : List Argument) : List Argument :=
  arguments.eraseDups

namespace UsageError

/-- What is wrong. -/
def problem : UsageError → List Span
  | unexpectedArgument written _ _ =>
      [.plain "unexpected argument '", .styled Palette.wrong written, .plain "' found\n"]
  | valueRequired argument =>
      [.plain "a value is required for '", .styled Palette.wrong argument.display,
          .plain "' but none was supplied\n"]
        ++ possibleLine argument
  | invalidValue argument written =>
      [.plain "invalid value '", .styled Palette.wrong written, .plain "' for '",
          .styled Palette.literal argument.display, .plain "'\n"]
        ++ possibleLine argument
  | repeatedArgument argument =>
      [.plain "the argument '", .styled Palette.wrong argument.display,
        .plain "' cannot be used multiple times\n"]
  | unexpectedValue flag written _ =>
      [.plain "unexpected value '", .styled Palette.wrong written, .plain "' for '",
        .styled Palette.literal flag.display, .plain "' found; no more were expected\n"]

/-- What could have been meant, and how the program is used: a paragraph each. -/
def advice : UsageError → List (List Span)
  | unexpectedArgument _ meant given =>
      (meant.toList.map fun argument => tipLine "argument" argument.typed)
        ++ [usageWith (distinct (given ++ meant.toList)) ++ [.plain "\n"]]
  | valueRequired _ => []
  | invalidValue argument written =>
      (suggest? written argument.possibleValues).toList.map (tipLine "value")
  | repeatedArgument _ => [generalUsage ++ [.plain "\n"]]
  | unexpectedValue flag _ given => [usageOfFlag flag given ++ [.plain "\n"]]

def spans (error : UsageError) : List Span :=
  [.styled Palette.alarm "error:", .plain " "] ++ error.problem
    ++ error.advice.flatMap (.plain "\n" :: ·)
    ++ [.plain "\nFor more information, try '",
      .styled Palette.literal Argument.help.typed, .plain "'.\n"]

end UsageError

end Preflight.CommandLine
