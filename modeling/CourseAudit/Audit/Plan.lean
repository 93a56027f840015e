import CourseAudit.Contract
import CourseAudit.Tool.Toolchain

/-!
Which checks a pattern gets, in which order. The plan depends on the sources, the contract and the
settings alone, not on what any tool answers.
-/
namespace CourseAudit

inductive Mode where
  -- Every source is compiled.
  | quick
  -- Sources are also run under the sanitizers and read by the static analyzers.
  | full
  deriving DecidableEq, Repr

namespace Mode

def text : Mode → String
  | .quick => "quick"
  | .full => "full"

def ofFull (full : Bool) : Mode :=
  if full then .full else .quick

end Mode

structure Options where
  mode : Mode
  -- Only sources and documentation are looked for; nothing is compiled.
  skipBuild : Bool
  deriving DecidableEq, Repr

-- A source with what is expected of it.
structure Subject where
  artifact : Artifact
  expected : Expected
  deriving DecidableEq, Repr

inductive Step where
  | compile (subject : Subject)
  | skipCompile (artifact : Artifact)
  | sanitize (subject : Subject) (tool : Tool)
  | review (artifact : Artifact)
  | analyze (analyzer : String) (subjects : List Subject)
  deriving DecidableEq, Repr

namespace Step

def checkName (tool : String) (a : Artifact) : String :=
  tool ++ ":" ++ a.fileName

def reviewName : String := "exploit-manual-review"

-- The names of the results of a step.
def names : Step → List String
  | .compile s => [checkName Tool.compiler.shortName s.artifact]
  | .skipCompile a => [checkName Tool.compiler.shortName a]
  | .sanitize s tool => [checkName tool.shortName s.artifact]
  | .review a => [checkName reviewName a]
  | .analyze analyzer subjects => subjects.map fun s => checkName analyzer s.artifact

-- How many programs a step builds.
def builds : Step → Nat
  | .compile _ | .sanitize .. => 1
  | _ => 0

end Step

-- What a pattern is checked with.
structure Auditor where
  config : Config
  signatures : SignatureTable
  contract : Contract

namespace Auditor

def subject (v : Auditor) (tool : Tool) (a : Artifact) : Subject :=
  ⟨a, v.contract.expected a.role tool⟩

-- The sources that a tool is applied to.
def subjects (v : Auditor) (tool : Tool) (sources : List Artifact) : List Subject :=
  (sources.map (v.subject tool)).filter (·.expected ≠ .notApplicable)

def compileStep (v : Auditor) (a : Artifact) : Step :=
  let s := v.subject .compiler a
  if s.expected = .notApplicable then .skipCompile a else .compile s

-- Data races are looked for in the modules about concurrency only.
def sanitizersFor (v : Auditor) (module : String) : List Tool :=
  if v.config.isConcurrencyModule module then
    [.addressSanitizer, .threadSanitizer, .undefinedSanitizer]
  else [.addressSanitizer, .undefinedSanitizer]

def sanitizeSteps (v : Auditor) (sanitizers : List Tool) (a : Artifact) : List Step :=
  ((sanitizers.map fun tool => (tool, v.subject tool a)).filter
      fun (_, s) => s.expected ≠ .notApplicable).map (fun (tool, s) => .sanitize s tool)
    ++ if a.role = .exploit then [.review a] else []

def analyzeStep (v : Auditor) (sources : List Artifact) (analyzer : String) : Step :=
  .analyze analyzer (v.subjects (.analyzer analyzer) sources)

def quickSteps (v : Auditor) (sources : List Artifact) : List Step :=
  sources.map v.compileStep

def fullSteps (v : Auditor) (module : String) (sources : List Artifact) : List Step :=
  sources.flatMap (v.sanitizeSteps (v.sanitizersFor module))
    ++ v.config.staticAnalyzers.map (v.analyzeStep sources)

def steps (v : Auditor) (mode : Mode) (module : String) (sources : List Artifact) : List Step :=
  match mode with
  | .quick => v.quickSteps sources
  | .full => v.quickSteps sources ++ v.fullSteps module sources

end Auditor
end CourseAudit
