import Preflight.CommandLine.UsageError

/-!
The help texts and the version.
-/

namespace Preflight.CommandLine

open Terminal (Span)

namespace Argument

/-- What an argument does, as one of the two help texts tells it. -/
def about (long : Bool) : Argument → String
  | rootDir => "Project root (defaults to the current directory)"
  | layout => "JSON layout manifest to use instead of the built-in Flutter layout"
  | format => "Report format"
  | reportOnly => "Always exit 0 once the checks have run"
  | printLayout => "Print the active layout as JSON and exit"
  | help =>
      if long then "Print help (see a summary with '-h')" else "Print help (see more with '--help')"
  | version => "Print version"

/-- What values an argument can have, and which it has if it is not given. -/
def remarks (argument : Argument) : List String :=
  (match argument with
    | .format => ["[default: " ++ Format.text.name ++ "]"]
    | _ => [])
    ++ (if argument.possibleValues.isEmpty then []
      else ["[possible values: " ++ String.intercalate ", " argument.possibleValues ++ "]"])

/-- An argument as help shows it: a short form, if there is one, and the long form under the others,
and the name of the value. -/
def entry (argument : Argument) : List Span :=
  (match argument.short? with
    | none => [.plain "      "]
    | some letter =>
        [.plain "  ", .styled Palette.literal (String.ofList ['-', letter]), .plain ", "])
    ++ argument.spans

end Argument

def blanks (count : Nat) : String :=
  String.ofList (List.replicate count ' ')

/-- The column in which the short help tells what the arguments do. -/
def aboutColumn : Nat := 29

/-- An argument in the short help: one line. -/
def shortEntry (argument : Argument) : List Span :=
  argument.entry
    ++ [.plain (blanks (aboutColumn - (Span.bareText argument.entry).length)),
      .plain (String.intercalate " " (argument.about false :: argument.remarks)), .plain "\n"]

/-- A line of the long help that tells about an argument. -/
def indented (text : String) : Span :=
  .plain ("          " ++ text ++ "\n")

/-- An argument in the long help: a paragraph below it, and another for the remarks. -/
def longEntry (argument : Argument) : List Span :=
  argument.entry ++ [.plain "\n", indented (argument.about true)]
    ++ (if argument.remarks.isEmpty then [] else (("" :: argument.remarks).map indented))

/-- The part of help behind the description: usage, and the options from their entries. -/
def helpBody (entries : List Span) : List Span :=
  [.plain "\n"] ++ generalUsage ++ [.plain "\n\n", .styled Palette.heading "Options:", .plain "\n"]
    ++ entries

def shortHelp : List Span :=
  [.plain "Pre-flight check of a Flutter project's file layout, imports and dependencies\n"]
    ++ helpBody (Argument.all.flatMap shortEntry)

/-- What the program does and how it ends. -/
def description : List String :=
  ["Checks that the expected project files exist, that local imports are relative, and that the "
      ++ "manifest names every required dependency, then prints code statistics.",
    "",
    "Exit codes:",
    "  0 - All checks passed (or --report-only)",
    "  1 - At least one check failed",
    "  2 - Layout, working-directory or report output error"]

def longHelp : List Span :=
  (description.map fun line => Span.plain (line ++ "\n"))
    ++ helpBody ([Span.plain "\n"].intercalate (Argument.all.map longEntry))

def versionText : List Span :=
  [.plain (programName ++ " " ++ programVersion ++ "\n")]

end Preflight.CommandLine
