import CourseAudit.Artifact
import CourseAudit.Scorecard
import CourseAudit.Verdict

/-!
Which verdict is the right one for a source under a tool. For a vulnerable source the sanitizers are
to find a defect; a run that is clean is the failure then. Exploits are judged by hand.

| tool               | vulnerable     | secure        | exploit        |
| ------------------ | -------------- | ------------- | -------------- |
| compiler           | must be clean  | must be clean | must be clean  |
| address, thread    | must detect    | must be clean | not applicable |
| undefined          | not applicable | must be clean | not applicable |
| static analyzer    | not applicable | must be clean | not applicable |
-/
namespace CourseAudit

inductive Expected where
  | mustDetect
  | mustBeClean
  | notApplicable
  deriving DecidableEq, Repr

namespace Expected

def text : Expected → String
  | .mustDetect => "must detect a defect"
  | .mustBeClean => "must be clean"
  | .notApplicable => "not applicable"

end Expected

structure ContractOverride where
  role : Role
  tool : ToolClass
  expected : Expected
  deriving DecidableEq, Repr

structure Contract where
  cell : Role → ToolClass → Expected

namespace Contract

def standardCell : Role → ToolClass → Expected
  | _, .compiler | .secure, _ => .mustBeClean
  | .vulnerable, .addressSanitizer | .vulnerable, .threadSanitizer => .mustDetect
  | _, _ => .notApplicable

def standard : Contract := ⟨standardCell⟩

def override (c : Contract) (o : ContractOverride) : Contract :=
  ⟨fun role tool => if role = o.role ∧ tool = o.tool then o.expected else c.cell role tool⟩

-- Later overrides of a cell win.
def overrideAll (c : Contract) (overrides : List ContractOverride) : Contract :=
  overrides.foldl override c

def expected (c : Contract) (role : Role) (tool : Tool) : Expected :=
  c.cell role tool.classOf

end Contract

structure Judgement where
  outcome : Outcome
  detail : String
  deriving DecidableEq, Repr

-- An inconclusive verdict stays inconclusive whatever was expected.
def Expected.judge (expected : Expected) (verdict : Verdict) : Judgement :=
  match expected, verdict with
  | .notApplicable, _ => ⟨.skipped, "not applicable to this role"⟩
  | _, .inconclusive reason [] => ⟨.inconclusive, reason⟩
  | _, .inconclusive reason signatures =>
    ⟨.inconclusive, reason ++ " (matched: " ++ Text.joinStrings ", " signatures ++ ")"⟩
  | _, .compileFailed .. => ⟨.failed, verdict.text⟩
  | .mustDetect, .defect signatures =>
    ⟨.passed, "expected defect detected: " ++ Text.joinStrings ", " signatures⟩
  | .mustBeClean, .clean => ⟨.passed, "clean"⟩
  | .mustDetect, .clean =>
    ⟨.failed, "expected a defect, observed a clean run (no known signature matched)"⟩
  | .mustBeClean, .defect signatures =>
    ⟨.failed, "expected a clean run, observed: " ++ Text.joinStrings ", " signatures⟩

end CourseAudit
