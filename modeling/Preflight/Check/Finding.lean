import Preflight.Source

/-!
What checks report: findings, code statistics, and the result of one check.
-/

namespace Preflight

/-- A single problem or note. -/
inductive Finding where
  | missingFile (path : String)
  | malformedImport (file target : String)
  | fileRead (path : String) (kind : ReadErrorKind) (message : String)
  | manifestRead (path : String) (kind : ReadErrorKind) (message : String)
  | missingDependency (name : String)
  deriving DecidableEq, Repr

namespace Finding

def ofSourceError (path : String) (error : ReadError) : Finding :=
  .fileRead path error.kind error.message

def ofManifestError (path : String) (error : ReadError) : Finding :=
  .manifestRead path error.kind error.message

def describe : Finding → String
  | missingFile path => "missing file: " ++ path
  | malformedImport file target =>
      file ++ ": import '" ++ target
        ++ "' must be relative (start with '.') or use an exempt prefix"
  | fileRead _ _ message => "read error: " ++ message
  | manifestRead _ _ message => "manifest unreadable: " ++ message
  | missingDependency name => "missing dependency: " ++ name

end Finding

/-- Code statistics: files read, lines in them, and the average rounded down. -/
structure Metrics where
  totalFiles : Nat
  totalLines : Nat
  averageLines : Nat
  deriving DecidableEq, Repr

structure CheckResult where
  name : String
  passed : Bool
  findings : List Finding
  metrics : Option Metrics
  deriving DecidableEq, Repr

/-- The result of a check that passes when it finds nothing. -/
def CheckResult.ofFindings (name : String) (findings : List Finding) : CheckResult where
  name
  passed := findings.isEmpty
  findings
  metrics := none

end Preflight
