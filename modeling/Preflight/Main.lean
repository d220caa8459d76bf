import Preflight.Surroundings

/-!
The command line program: look up what a run depends on, run, and write what comes of it.
-/

namespace Preflight

/-- The number and the words of an error of the operating system. -/
def describeError : IO.Error → UInt32 × String
  | .alreadyExists _ code text | .invalidArgument _ code text | .permissionDenied _ code text
  | .resourceExhausted _ code text | .inappropriateType _ code text | .noSuchThing _ code text
  | .otherError code text | .resourceBusy code text | .resourceVanished code text
  | .unsupportedOperation code text | .hardwareFault code text
  | .unsatisfiedConstraints code text | .illegalOperation code text | .protocolError code text
  | .timeExpired code text | .interrupted _ code text | .noFileOrDirectory _ code text =>
      (code, text)
  | .unexpectedEof => (0, "unexpected end of file")
  | .userError text => (0, text)

/-- The fault that an error of the operating system stands for. -/
def faultOf (error : IO.Error) : AccessFault :=
  let (code, text) := describeError error
  if code = 2 then .notFound
  else if code = 13 then .permissionDenied
  else if code = 20 then .notDirectory
  else if code = 21 then .isDirectory
  else if code = 28 then .noSpace
  else if code = 36 then .nameTooLong
  else if code = 40 then .tooManyLinks
  else .other (text ++ " (os error " ++ toString code ++ ")")

/-- What is found at the end of a path. Whether there is anything is asked apart from what can be
read, since what is there can refuse to be read. -/
def lookAt (path : String) : IO (Except AccessFault Found) := do
  if path.toList.contains '\x00' then return .error .nulInPath
  let there ← (System.mkFilePath [path]).pathExists
  try
    return .ok (.file (← IO.FS.readBinFile path).toList)
  catch error =>
    match there, faultOf error with
    | false, fault => return .error fault
    | true, .isDirectory => return .ok .directory
    | true, fault => return .ok (.locked fault)

def lookUpDirectory : IO (Except AccessFault String) := do
  try
    return .ok (← IO.currentDir).toString
  catch error => return .error (faultOf error)

def lookAtAll (paths : List String) : IO (List (String × Except AccessFault Found)) :=
  paths.mapM fun path => return (path, ← lookAt path)

/-- The surroundings of a command line that asks for no run: the environment alone. -/
def lookAround : IO Surroundings := do
  let settings ← Program.settings.mapM fun name => return (name, ← IO.getEnv name)
  return {
    workingDirectory := .error .notFound
    disk := .ofObservations []
    environment := .ofObservations settings
    output := .unlimited }

/-- Look up what a run with some options depends on. -/
def observe (options : CommandLine.Options) : IO Surroundings := do
  let directory ← lookUpDirectory
  let layouts ← lookAtAll options.layout.toList
  let before : Surroundings :=
    { ← lookAround with workingDirectory := directory, disk := .ofObservations layouts }
  match Project.ofOptions before options with
  | .error _ => return before
  | .ok project =>
      let files ← lookAtAll (Program.paths project)
      return { before with disk := .ofObservations (layouts ++ files) }

def emit (bytes : List UInt8) : IO (Option AccessFault) := do
  let output ← IO.getStdout
  try
    output.write ⟨bytes.toArray⟩
    output.flush
    return none
  catch error => return some (faultOf error)

end Preflight

open Preflight

def main (words : List String) : IO UInt32 := do
  let surroundings ←
    match CommandLine.parse words with
    | .ok (.run options) => observe options
    | _ => lookAround
  let outcome := Program.run surroundings words
  let outcome ←
    match ← emit outcome.output with
    | none => pure outcome
    | some fault => pure (Program.run { surroundings with output := ⟨some 0, fault⟩ } words)
  let time ← IO.monoMsNow
  let isColoured := Terminal.isLogColoured surroundings.environment
  IO.eprint (outcome.errorOutput isColoured (toString time ++ "ms") "0ms")
  return outcome.code.toUInt32
