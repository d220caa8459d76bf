import Preflight.Check.Finding

/-!
Reports: the results of a run in order, and the verdict they add up to.
-/

namespace Preflight

structure Report where
  results : List CheckResult
  deriving DecidableEq, Repr

inductive Verdict where
  | passed
  | failed
  deriving DecidableEq, Repr

def Verdict.exitCode : Verdict → Nat
  | passed => 0
  | failed => 1

namespace Report

def passedCount (report : Report) : Nat :=
  (report.results.filter (·.passed)).length

def total (report : Report) : Nat := report.results.length

def allPassed (report : Report) : Bool := report.passedCount == report.total

def verdict (report : Report) : Verdict :=
  if report.allPassed then .passed else .failed

end Report

end Preflight
