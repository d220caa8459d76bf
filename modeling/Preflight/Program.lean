import Preflight.Check.Run
import Preflight.CommandLine.Help
import Preflight.CommandLine.Parse
import Preflight.Layout.Document
import Preflight.Log.Filter
import Preflight.Report.Render
import Preflight.Terminal.Colour
import Preflight.Terminal.Message
import Preflight.Terminal.Plain

/-!
The program: from a command line and the surroundings it is run in to what it writes, what it logs
and the code it exits with.

The order is fixed. The command line is understood first, then the root and the layout are settled,
then the layout is printed or the checks are run and reported. Whatever fails ends the program with
code two, and a report that passes or that is asked for no verdict with code zero.
-/

namespace Preflight

open CommandLine (Options Request UsageError)
open Terminal (Environment Sink Written)

/-- What a run of the program depends on besides its command line. -/
structure Surroundings where
  /-- The path of the working directory, if it can be told. -/
  workingDirectory : Except AccessFault String
  disk : Disk
  environment : Environment
  /-- Where standard output goes. -/
  output : Sink

/-- What ends on standard error in the end, if anything does. Only what is said about the command
line can be styled. -/
inductive Complaint where
  | usage (isStyled : Bool) (error : UsageError)
  | load (error : Layout.LoadError)
  | unwrittenReport (fault : AccessFault)
  | unprintedLayout (fault : AccessFault)

def Complaint.message : Complaint → String
  | .usage isStyled error => Terminal.messageText isStyled error.spans
  | .load error => "Error: " ++ error.message ++ "\n"
  | .unwrittenReport fault => "Error: failed to write report: " ++ fault.message ++ "\n"
  | .unprintedLayout fault => "Error: " ++ fault.message ++ "\n"

/-- What has become of a run: the bytes on standard output, the events logged, the complaint that
follows them on standard error, and the exit code. -/
structure Outcome where
  output : List UInt8
  log : List Log.Event
  complaint : Option Complaint
  code : Nat

namespace Outcome

/-- The end of a run that cannot go on. -/
def failure (complaint : Complaint) (output : List UInt8) (log : List Log.Event) : Outcome :=
  ⟨output, log, some complaint, 2⟩

def complaintText (outcome : Outcome) : String :=
  match outcome.complaint with
  | none => ""
  | some complaint => complaint.message

/-- What is written to standard error, when every event is stamped with one time and every check
takes one length of time. -/
def errorOutput (isColoured : Bool) (time elapsed : String) (outcome : Outcome) : String :=
  String.join (outcome.log.map (Log.Event.line isColoured time elapsed)) ++ outcome.complaintText

/-- The text on standard error to one who takes the codes of colours out of the lines of the log. -/
def errorText (time elapsed : String) (outcome : Outcome) : String :=
  String.join
      (outcome.log.map fun event => Terminal.uncoloured (event.line true time elapsed))
    ++ outcome.complaintText

end Outcome

/-- The root that options ask for: the one given, or else the working directory. -/
def Surroundings.rootFor (surroundings : Surroundings) (options : Options) :
    Except Layout.LoadError String :=
  match options.rootDir with
  | some root => .ok root
  | none => surroundings.workingDirectory.mapError .noWorkingDirectory

/-- The project that options ask for: its layout is the one loaded or the built-in one. -/
def Project.ofOptions (surroundings : Surroundings) (options : Options) :
    Except Layout.LoadError Project := do
  let root ← surroundings.rootFor options
  match options.layout with
  | none => return .ofRoot root
  | some path =>
      (Project.withLayout root (← Layout.load surroundings.disk path)).mapError .invalid

namespace Program

def printLayout (sink : Sink) (layout : Layout) : Outcome :=
  let written := sink.write (layout.toJson.pieces 0 ++ ["\n"])
  match written.fault with
  | none => ⟨written.bytes, [], none, 0⟩
  | some fault => .failure (.unprintedLayout fault) written.bytes []

def check (surroundings : Surroundings) (options : Options) (project : Project) : Outcome :=
  let filter := Log.Filter.ofSetting (surroundings.environment "RUST_LOG")
  let events := .running project.root :: project.runEvents surroundings.disk
  let log := events.filter filter.shows
  let report := project.run surroundings.disk
  let written :=
    report.renderInto surroundings.output options.format
      (Terminal.isColoured surroundings.environment)
  match written.fault with
  | some fault => .failure (.unwrittenReport fault) written.bytes log
  | none =>
      ⟨written.bytes, log, none, if options.reportOnly then 0 else report.verdict.exitCode⟩

def perform (surroundings : Surroundings) (options : Options) : Outcome :=
  match Project.ofOptions surroundings options with
  | .error error => .failure (.load error) [] []
  | .ok project =>
      if options.printLayout then printLayout surroundings.output project.layout
      else check surroundings options project

/-- Write a text that help or version asks for; whether it could be written does not matter. -/
def say (sink : Sink) (isStyled : Bool) (text : List Terminal.Span) : Outcome :=
  ⟨(sink.write [Terminal.messageText isStyled text]).bytes, [], none, 0⟩

def run (surroundings : Surroundings) (words : List String) : Outcome :=
  let isStyled := Terminal.isStyled surroundings.environment
  match CommandLine.parse words with
  | .error error => .failure (.usage isStyled error) [] []
  | .ok .version => say surroundings.output isStyled CommandLine.versionText
  | .ok (.help long) =>
      say surroundings.output isStyled
        (if long then CommandLine.longHelp else CommandLine.shortHelp)
  | .ok (.run options) => perform surroundings options

end Program

end Preflight
