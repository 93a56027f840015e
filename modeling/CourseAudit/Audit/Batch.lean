import CourseAudit.Audit.Pattern

/-!
The validation of all patterns of a course, one after the other. Whatever stops the validation of a
pattern becomes the one result of its scorecard, and the next pattern is validated as usual.
-/
namespace CourseAudit.Auditor

variable {σ : Type}

def scorecardOf (directory : Path) : Except Stop Scorecard → Scorecard
  | .ok s => s
  | .error e =>
    .fault (Course.patternName directory) (Course.moduleName directory) directory e.message

def validateAll (v : Auditor) (files : FileTree) (h : Host σ) (options : Options) :
    List Path → Session σ → List Scorecard × Session σ
  | [], s => ([], s)
  | directory :: rest, s =>
    let (result, s) := v.validate files h directory options s
    let (behind, s) := validateAll v files h options rest s
    (scorecardOf directory result :: behind, s)

-- The scorecards of a course, in the order of its patterns.
def validateCourse (v : Auditor) (files : FileTree) (h : Host σ) (root : Path) (options : Options)
    (s : Session σ) : Except AuditFailure (List Scorecard) × Session σ :=
  match Course.findPatterns files root with
  | .error f => (.error f, s)
  | .ok patterns =>
    let (scorecards, s) := v.validateAll files h options patterns s
    (.ok scorecards, s)

end CourseAudit.Auditor
