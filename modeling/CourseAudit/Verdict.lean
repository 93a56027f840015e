import CourseAudit.Signature.Table

/-!
What a run of a tool says about a source. Whether that is good or bad is for the contract to judge.
-/
namespace CourseAudit

inductive Verdict where
  -- At least one signature was found; the first is the main one.
  | defect (signatures : List String)
  | clean
  -- The run took too long, or failed without a known diagnostic.
  | inconclusive (reason : String) (signatures : List String)
  | compileFailed (exitCode : Option Int) (firstError : Option String)
  deriving DecidableEq, Repr

namespace Verdict

def text : Verdict → String
  | .defect signatures => "defect detected (" ++ Text.joinStrings ", " signatures ++ ")"
  | .clean => "clean"
  | .inconclusive reason _ => "inconclusive: " ++ reason
  | .compileFailed _ (some line) => "compilation failed: " ++ line
  | .compileFailed (some code) none => "compilation failed with status " ++ toString code
  | .compileFailed none none => "compilation killed by a signal"

end Verdict

-- The known diagnostics and the version of the compiler, by which runs are read.
structure Classifier where
  table : SignatureTable
  major : Option UInt32

namespace Classifier

def applicable (c : Classifier) (tool : Tool) : List Signature :=
  (c.table.signaturesFor tool).filter (·.appliesTo c.major)

def matchedLabels (signatures : List Signature) (output : String) : List String :=
  (signatures.filter (·.isMatch output)).map (·.label)

-- The first line that any signature matches.
def firstMatchingLine (signatures : List Signature) (output : String) : Option String :=
  ((Text.linesOfString output).find? fun line => signatures.any (·.isMatch line)).map
    Text.trimString

def withoutDiagnostic : Option Int → Verdict
  | some 0 => .clean
  | some code =>
    .inconclusive ("exited with status " ++ toString code ++ " without a known diagnostic") []
  | none => .inconclusive "killed by a signal without a known diagnostic" []

def classify (c : Classifier) (run : ToolRun) : Verdict :=
  let signatures := c.applicable run.tool
  if run.timedOut then .inconclusive "timed out" (matchedLabels signatures run.output)
  else if run.tool = .compiler then
    if run.exitCode = some 0 then .clean
    else .compileFailed run.exitCode (firstMatchingLine signatures run.output)
  else
    match matchedLabels signatures run.output with
    | [] => withoutDiagnostic run.exitCode
    | labels => .defect labels

end Classifier
end CourseAudit
