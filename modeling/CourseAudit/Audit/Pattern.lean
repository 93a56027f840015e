import CourseAudit.Audit.Host
import CourseAudit.Audit.Plan
import CourseAudit.Documentation
import CourseAudit.Tool.CompilerVersion

/-!
The validation of one pattern: its sources, the steps of its plan, its documentation. A check that
fails never stops the validation; a compiler that cannot be run does.
-/
namespace CourseAudit

namespace Artifacts

-- Whether a role that every pattern needs has a source.
def presence (a : Artifacts) (role : Role) : CheckResult :=
  let name := "discover:" ++ role.text
  match (a.ofRole role).map (·.fileName) with
  | [] => ⟨name, .failed, "missing " ++ role.text ++ " source (" ++ role.naming ++ ")"⟩
  | names => ⟨name, .passed, Text.joinStrings ", " names⟩

def presences (a : Artifacts) : List CheckResult :=
  [a.presence .vulnerable, a.presence .secure]

end Artifacts

namespace Auditor

variable {σ : Type}

-- A compiler that is gone when it is needed counts as not installed.
def compilerFailure : ToolFailure → AuditFailure
  | .notFound program => .toolchainMissing program
  | f => .tool f

def invokeCompiler (h : Host σ) (i : Invocation) : Audit σ ToolRun := do
  match ← Audit.invoke h i with
  | .ok run => pure run
  | .error f => Audit.fail (compilerFailure f)

def askVersion (v : Auditor) (h : Host σ) : Audit σ (Option UInt32) := do
  if ← Audit.isAvailable h v.config.compiler then
    let run ← invokeCompiler h (Toolchain.version v.config)
    pure (CompilerVersion.parse? run.output)
  else Audit.fail (.toolchainMissing v.config.compiler)

-- The version of the compiler. It is asked for until it is known, and never again.
def compilerMajor (v : Auditor) (h : Host σ) : Audit σ (Option UInt32) := fun s =>
  match s.compiler with
  | some major => (.ok major, s)
  | none =>
    match v.askVersion h s with
    | (.ok major, s) => (.ok major, { s with compiler := some major })
    | (.error e, s) => (.error e, s)

def twoDigits (n : Nat) : String :=
  if n < 10 then "0" ++ toString n else toString n

-- Outputs are numbered, so that no two of them have one name.
def outputPath (build : Path) (number : Nat) (tool : Tool) (a : Artifact) : Path :=
  build.join (twoDigits number ++ "-" ++ tool.shortName ++ "-" ++ a.stem)

-- What a check has to know of the build around it.
structure Bench where
  auditor : Auditor
  major : Option UInt32
  build : Path

namespace Bench

def config (b : Bench) : Config := b.auditor.config

def classifier (b : Bench) : Classifier := ⟨b.auditor.signatures, b.major⟩

def compile (b : Bench) (h : Host σ) (number : Nat) (s : Subject) : Audit σ CheckResult := do
  let output := outputPath b.build number .compiler s.artifact
  let run ← invokeCompiler h (Toolchain.compile b.config s.artifact.path output none)
  let j := s.expected.judge (b.classifier.classify run)
  pure ⟨Step.checkName Tool.compiler.shortName s.artifact, j.outcome, j.detail⟩

-- A race need not show in every run, so a run that is to find one may be repeated.
def attempts (b : Bench) (tool : Tool) (expected : Expected) : Nat :=
  if tool = .threadSanitizer ∧ expected = .mustDetect then
    max 1 b.config.raceDetectionAttempts.toNat
  else 1

def isDefect : Verdict → Bool
  | .defect _ => true
  | _ => false

-- How the runs of a program ended: one could not be started, or the last one has a verdict.
inductive RunsEnd where
  | unstartable (failure : ToolFailure)
  | verdict (verdict : Verdict) (attempt : Nat)

-- Runs a program until a defect is found, a run takes too long, or no attempt is left. `attempt` is
-- the number of the next run and `left` counts the runs that may follow it.
def runUntil (b : Bench) (h : Host σ) (i : Invocation) : Nat → Nat → Audit σ RunsEnd
  | attempt, left => do
    match ← Audit.invoke h i with
    | .error f => pure (.unstartable f)
    | .ok run =>
      let verdict := b.classifier.classify run
      match left with
      | 0 => pure (.verdict verdict attempt)
      | left + 1 =>
        if isDefect verdict || run.timedOut then pure (.verdict verdict attempt)
        else runUntil b h i (attempt + 1) left
termination_by structural _ left => left

def attemptNote (attempt attempts : Nat) : String :=
  if 1 < attempts then " (attempt " ++ toString attempt ++ " of " ++ toString attempts ++ ")"
  else ""

def runResult (tool : Tool) (expected : Expected) (attempts : Nat) : RunsEnd → Judgement
  | .unstartable f =>
    ⟨.inconclusive, "could not run the " ++ tool.displayName ++ " build: " ++ f.message⟩
  | .verdict verdict attempt =>
    let j := expected.judge verdict
    ⟨j.outcome, j.detail ++ attemptNote attempt attempts⟩

-- What is recorded when an instrumented build does not succeed. One that took too long says nothing
-- about the source.
def buildResult (tool : Tool) : Verdict → Judgement
  | .inconclusive reason _ =>
    ⟨.inconclusive, tool.displayName ++ " build inconclusive: " ++ reason⟩
  | verdict => ⟨.failed, tool.displayName ++ " build failed: " ++ verdict.text⟩

def sanitize (b : Bench) (h : Host σ) (number : Nat) (s : Subject) (tool : Tool) :
    Audit σ CheckResult := do
  let name := Step.checkName tool.shortName s.artifact
  let binary := outputPath b.build number tool s.artifact
  let build ← invokeCompiler h (Toolchain.compile b.config s.artifact.path binary (some tool))
  match b.classifier.classify build with
  | .clean =>
    let attempts := b.attempts tool s.expected
    let ended ← b.runUntil h (Toolchain.run b.config tool binary b.build) 1 (attempts - 1)
    let j := runResult tool s.expected attempts ended
    pure ⟨name, j.outcome, j.detail⟩
  | verdict =>
    let j := buildResult tool verdict
    pure ⟨name, j.outcome, j.detail⟩

def notInstalled (analyzer : String) : Judgement :=
  ⟨.skipped, analyzer ++ " is not installed"⟩

-- An analyzer is a help, not a need: where it is missing, its checks are skipped.
def analyzeOne (b : Bench) (h : Host σ) (analyzer : String) (available : Bool) (s : Subject) :
    Audit σ CheckResult := do
  let name := Step.checkName analyzer s.artifact
  let j ←
    if available then
      match ← Audit.invoke h (Toolchain.analyze b.config analyzer s.artifact.path) with
      | .ok run => pure (s.expected.judge (b.classifier.classify run))
      | .error (.notFound _) => pure (notInstalled analyzer)
      | .error f => pure ⟨.inconclusive, f.message⟩
    else pure (notInstalled analyzer)
  pure ⟨name, j.outcome, j.detail⟩

def analyzeEach (b : Bench) (h : Host σ) (analyzer : String) (available : Bool) :
    List Subject → Audit σ (List CheckResult)
  | [] => pure []
  | s :: rest => do
    let r ← b.analyzeOne h analyzer available s
    let behind ← b.analyzeEach h analyzer available rest
    pure (r :: behind)

def runStep (b : Bench) (h : Host σ) (number : Nat) : Step → Audit σ (List CheckResult)
  | .compile s => do
    let r ← b.compile h number s
    pure [r]
  | .skipCompile a =>
    pure [⟨Step.checkName Tool.compiler.shortName a, .skipped, "not applicable to this role"⟩]
  | .sanitize s tool => do
    let r ← b.sanitize h number s tool
    pure [r]
  | .review a =>
    pure [⟨Step.checkName Step.reviewName a, .manualReview,
      "exploit success cannot be judged from tool output"⟩]
  | .analyze analyzer subjects => do
    let available ← Audit.isAvailable h analyzer
    b.analyzeEach h analyzer available subjects

-- Runs steps in order; `number` is that of the next output.
def runSteps (b : Bench) (h : Host σ) : Nat → List Step → Audit σ (List CheckResult)
  | _, [] => pure []
  | number, step :: rest => do
    let here ← b.runStep h number step
    let behind ← b.runSteps h (number + step.builds) rest
    pure (here ++ behind)

end Bench

-- The results that need a compiler.
def buildResults (v : Auditor) (h : Host σ) (steps : List Step) : Audit σ (List CheckResult) := do
  let major ← v.compilerMajor h
  Audit.withBuild h fun build => Bench.runSteps ⟨v, major, build⟩ h 1 steps

def validate (v : Auditor) (files : FileTree) (h : Host σ) (directory : Path) (options : Options) :
    Audit σ Scorecard := do
  let module := Course.moduleName directory
  let artifacts ← Audit.ofExcept (Artifacts.discover files directory)
  let built ←
    if options.skipBuild then pure []
    else v.buildResults h (v.steps options.mode module artifacts.sources)
  let documentation := Documentation.check files artifacts.documentation
  pure
    { patternName := Course.patternName directory
      module
      directory
      results := artifacts.presences ++ built ++ [documentation] }

end Auditor
end CourseAudit
