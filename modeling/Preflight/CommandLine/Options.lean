import Preflight.Report.Format

/-!
The arguments of the command line: what each is called, what it takes, and what a command line that
has been understood asks for.
-/

namespace Preflight.CommandLine

/-- The name of the program in its own messages. -/
def programName : String := "scaffold-lint"

def programVersion : String := "0.1.0"

/-- The arguments: options, which take a value, and flags, which take none. -/
inductive Argument where
  | rootDir
  | layout
  | format
  | reportOnly
  | printLayout
  | help
  | version
  deriving DecidableEq, Repr

namespace Argument

/-- All arguments, in the order in which help lists them. -/
def all : List Argument := [.rootDir, .layout, .format, .reportOnly, .printLayout, .help, .version]

/-- The name of an argument behind its two dashes. -/
def long : Argument → String
  | rootDir => "root-dir"
  | layout => "layout"
  | format => "format"
  | reportOnly => "report-only"
  | printLayout => "print-layout"
  | help => "help"
  | version => "version"

def valueName? : Argument → Option String
  | rootDir => some "ROOT_DIR"
  | layout => some "LAYOUT"
  | format => some "FORMAT"
  | _ => none

def ofLong? (name : String) : Option Argument :=
  all.find? (·.long == name)

/-- The letter of an argument behind its one dash, if it has one. -/
def short? : Argument → Option Char
  | help => some 'h'
  | version => some 'V'
  | _ => none

/-- The arguments that say how a run is done, as against those that ask for a text. A usage line can
name them together, as a choice. -/
def settings : List Argument := [.rootDir, .layout, .format, .reportOnly, .printLayout]

/-- The names that the value of an argument can be, where it has to be one of a few. -/
def possibleValues : Argument → List String
  | format => Format.all.map Format.name
  | _ => []

end Argument

structure Options where
  rootDir : Option String
  layout : Option String
  format : Format
  reportOnly : Bool
  printLayout : Bool
  deriving DecidableEq, Repr

inductive Request where
  | run (options : Options)
  | help (long : Bool)
  | version
  deriving DecidableEq, Repr

end Preflight.CommandLine
