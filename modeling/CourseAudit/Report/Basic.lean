import CourseAudit.Audit.Plan
import CourseAudit.Calendar
import CourseAudit.Scorecard

/-!
What a validation of a whole course found out, summed up by module.
-/
namespace CourseAudit

-- What the members count, taken together.
def total (count : α → Nat) (members : List α) : Nat :=
  members.foldr (fun m n => count m + n) 0

structure ModuleSummary where
  module : String
  title : String
  patternCount : Nat
  fullyPassingPatterns : Nat
  passedChecks : Nat
  evaluatedChecks : Nat
  deriving DecidableEq, Repr

namespace ModuleSummary

def of (title : String → String) (module : String) (members : List Scorecard) : ModuleSummary where
  module
  title := title module
  patternCount := members.length
  fullyPassingPatterns := members.countP (·.isFullyPassing)
  passedChecks := total (·.passedCount) members
  evaluatedChecks := total (·.evaluatedCount) members

def successRate (s : ModuleSummary) : Float :=
  CourseAudit.successRate s.passedChecks s.evaluatedChecks

end ModuleSummary

structure Report where
  scorecards : List Scorecard
  modules : List ModuleSummary
  mode : Mode
  moment : Moment
  deriving DecidableEq, Repr

namespace Report

-- Adds a name to names in increasing order, unless it is there already.
def insertName (name : String) : List String → List String
  | [] => [name]
  | first :: rest =>
    if name < first then name :: first :: rest
    else if name = first then first :: rest
    else first :: insertName name rest

theorem mem_insertName {x name : String} {names : List String} :
    x ∈ insertName name names ↔ x = name ∨ x ∈ names := by
  induction names with
  | nil => simp [insertName]
  | cons first rest ih => grind [insertName]

def moduleNames (scorecards : List Scorecard) : List String :=
  scorecards.foldr (fun s names => insertName s.module names) []

def membersOf (scorecards : List Scorecard) (module : String) : List Scorecard :=
  scorecards.filter (·.module = module)

-- The modules are summed up once, in the byte order of their names.
def of (title : String → String) (mode : Mode) (moment : Moment) (scorecards : List Scorecard) :
    Report where
  scorecards
  modules := (moduleNames scorecards).map fun m => .of title m (membersOf scorecards m)
  mode
  moment

def scorecardsOf (r : Report) (module : String) : List Scorecard :=
  membersOf r.scorecards module

def passedChecks (r : Report) : Nat :=
  total (·.passedChecks) r.modules

def evaluatedChecks (r : Report) : Nat :=
  total (·.evaluatedChecks) r.modules

def successRate (r : Report) : Float :=
  CourseAudit.successRate r.passedChecks r.evaluatedChecks

def patternCount (r : Report) : Nat :=
  r.scorecards.length

def fullyPassingPatterns (r : Report) : Nat :=
  r.scorecards.countP (·.isFullyPassing)

-- A course without patterns passes.
def isFullyPassing (r : Report) : Bool :=
  r.scorecards.all (·.isFullyPassing)

-- How often an outcome occurs in all scorecards.
def count (r : Report) (o : Outcome) : Nat :=
  total (·.count o) r.scorecards

end Report
end CourseAudit
