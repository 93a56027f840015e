import CourseAudit.Path

/-!
The outcomes of all checks of one pattern. A check that was skipped, or that waits for a human, does
not count towards the success rate.
-/
namespace CourseAudit

inductive Outcome where
  | passed
  | failed
  | skipped
  -- The check ran, but nothing can be said, for instance after a timeout.
  | inconclusive
  -- A human has to look at it.
  | manualReview
  deriving DecidableEq, Repr

namespace Outcome

def text : Outcome → String
  | .passed => "passed"
  | .failed => "failed"
  | .skipped => "skipped"
  | .inconclusive => "inconclusive"
  | .manualReview => "manual review"

-- The name in machine-readable reports.
def key : Outcome → String
  | .manualReview => "manual_review"
  | o => o.text

-- Whether the check counts for or against the pattern, if it counts.
def counts? : Outcome → Option Bool
  | .passed => some true
  | .failed | .inconclusive => some false
  | .skipped | .manualReview => none

def isEvaluated (o : Outcome) : Bool :=
  o.counts?.isSome

end Outcome

structure CheckResult where
  name : String
  outcome : Outcome
  detail : String
  deriving DecidableEq, Repr

-- Passed checks as a percentage of the evaluated ones.
def successRate (passed evaluated : Nat) : Float :=
  if evaluated = 0 then 0.0 else Float.ofNat passed * 100.0 / Float.ofNat evaluated

structure Scorecard where
  patternName : String
  module : String
  directory : Path
  results : List CheckResult
  deriving DecidableEq, Repr

namespace Scorecard

def faultCheckName : String := "pattern-validation"

-- The scorecard of a pattern whose validation broke off.
def fault (patternName module : String) (directory : Path) (message : String) : Scorecard :=
  ⟨patternName, module, directory, [⟨faultCheckName, .failed, message⟩]⟩

def push (s : Scorecard) (r : CheckResult) : Scorecard :=
  { s with results := s.results ++ [r] }

def count (s : Scorecard) (o : Outcome) : Nat :=
  s.results.countP (·.outcome = o)

def passedCount (s : Scorecard) : Nat :=
  s.count .passed

def evaluatedCount (s : Scorecard) : Nat :=
  s.results.countP (·.outcome.isEvaluated)

def successRate (s : Scorecard) : Float :=
  CourseAudit.successRate s.passedCount s.evaluatedCount

-- No check counts against the pattern.
def isFullyPassing (s : Scorecard) : Bool :=
  s.results.all (·.outcome.counts? ≠ some false)

def nonPassing (s : Scorecard) : List CheckResult :=
  s.results.filter (·.outcome ≠ .passed)

end Scorecard
end CourseAudit
