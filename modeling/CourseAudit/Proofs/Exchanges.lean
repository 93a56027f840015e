import CourseAudit.Proofs.Journal

/-!
What each check exchanges with the host, and what comes of it. There is one relation for each part
of a validation and one theorem (`*_records`) that the part obeys it, so that what holds of all
answers of a host can be read off the relations alone. Main statement: `runSteps_records`.
-/
namespace CourseAudit

variable {σ : Type}

def Judgement.named (j : Judgement) (name : String) : CheckResult :=
  ⟨name, j.outcome, j.detail⟩

-- Steps with the numbers of the first outputs that they make.
def Step.numbered : Nat → List Step → List (Nat × Step)
  | _, [] => []
  | number, step :: rest => (number, step) :: numbered (number + step.builds) rest

theorem Step.exists_numbered_append (number : Nat) (steps later : List Step) :
    ∃ next, numbered number (steps ++ later) = numbered number steps ++ numbered next later := by
  induction steps generalizing number
  case nil => exact ⟨number, rfl⟩
  case cons step rest hi =>
    have ⟨next, h⟩ := hi (number + step.builds)
    exact ⟨next, congrArg _ h⟩

theorem Step.mem_of_mem_numbered {number : Nat} {steps : List Step} {p : Nat × Step}
    (h : p ∈ numbered number steps) : p.2 ∈ steps := by
  induction steps generalizing number
  case nil => cases h
  case cons step rest hi =>
    rcases List.mem_cons.1 h with rfl | h
    case inl => exact List.mem_cons_self
    case inr => exact List.mem_cons_of_mem _ (hi h)

-- A program is built and run for a sanitizer only.
def Step.IsPlanned : Step → Prop
  | .sanitize _ tool => tool.isSanitizer = true
  | _ => True

theorem Tool.ne_compiler_of_isSanitizer {t : Tool} (h : t.isSanitizer = true) : t ≠ .compiler := by
  rintro rfl
  cases h

namespace Auditor

section

variable {v : Auditor} {module : String} {sources : List Artifact} {step : Step}

theorem isSanitizer_of_mem_sanitizersFor {tool : Tool} (h : tool ∈ v.sanitizersFor module) :
    tool.isSanitizer = true := by
  rw [sanitizersFor] at h
  split at h <;> simp only [List.mem_cons, List.not_mem_nil, or_false] at h
  case isTrue => rcases h with rfl | rfl | rfl <;> rfl
  case isFalse => rcases h with rfl | rfl <;> rfl

theorem isPlanned_of_mem_sanitizeSteps {a : Artifact}
    (h : step ∈ v.sanitizeSteps (v.sanitizersFor module) a) : step.IsPlanned := by
  rcases List.mem_append.1 h with h | h
  case inl =>
    obtain ⟨p, hp, rfl⟩ := List.mem_map.1 h
    obtain ⟨tool, ht, rfl⟩ := List.mem_map.1 (List.mem_filter.1 hp).1
    exact isSanitizer_of_mem_sanitizersFor ht
  case inr =>
    split at h
    case isTrue => exact List.mem_singleton.1 h ▸ trivial
    case isFalse => cases h

theorem isPlanned_of_mem_quickSteps (h : step ∈ v.quickSteps sources) : step.IsPlanned := by
  obtain ⟨a, -, rfl⟩ := List.mem_map.1 h
  rw [compileStep]
  split <;> trivial

theorem isPlanned_of_mem_steps {mode : Mode} (h : step ∈ v.steps mode module sources) :
    step.IsPlanned := by
  cases mode
  case quick => exact isPlanned_of_mem_quickSteps h
  case full =>
    rw [steps, fullSteps, List.mem_append, List.mem_append] at h
    rcases h with h | h | h
    case inl => exact isPlanned_of_mem_quickSteps h
    case inr.inl =>
      obtain ⟨a, -, h⟩ := List.mem_flatMap.1 h
      exact isPlanned_of_mem_sanitizeSteps h
    case inr.inr =>
      obtain ⟨analyzer, -, rfl⟩ := List.mem_map.1 h
      trivial

end

-- What comes of invoking the compiler. That it cannot be run stops the validation.
inductive CompilerInvoked (i : Invocation) : List Event → Except Stop ToolRun → Prop
  | ran (reply) : CompilerInvoked i [.invoked i (.ran reply)] (.ok (reply.toRun i))
  | failed (f) :
    CompilerInvoked i [.invoked i (.failed f)] (.error (.failure (compilerFailure f)))
  | broke (message) :
    CompilerInvoked i [.invoked i (.broke message)] (.error (.breakdown message))

theorem invokeCompiler_records (h : Host σ) (i : Invocation) :
    (invokeCompiler h i).Records (CompilerInvoked i) := by
  refine (Audit.Records.invoke h i).bind ?_ ?_
  · rintro _ _ ⟨⟩
    exact .broke _
  · rintro _ _ ⟨⟩
    case ran reply => exact .pure (.ran reply)
    case failed f => exact .stop (.failed f)

theorem CompilerInvoked.exists_eq {i : Invocation} {events : List Event}
    {r : Except Stop ToolRun} (h : CompilerInvoked i events r) :
    ∃ answer, events = [.invoked i answer] := by
  cases h <;> exact ⟨_, rfl⟩

namespace Bench

variable (b : Bench)

-- How a source is built: as it is, or for a sanitizer. Either way the output has a number.
def building (number : Nat) (a : Artifact) (sanitizer : Option Tool) : Invocation :=
  Toolchain.compile b.config a.path (outputPath b.build number (sanitizer.getD .compiler) a)
    sanitizer

-- How the program that was built for a sanitizer is run.
def running (number : Nat) (a : Artifact) (tool : Tool) : Invocation :=
  Toolchain.run b.config tool (outputPath b.build number tool a) b.build

def analyzing (analyzer : String) (a : Artifact) : Invocation :=
  Toolchain.analyze b.config analyzer a.path

def verdictOn (i : Invocation) (reply : Reply) : Verdict :=
  b.classifier.classify (reply.toRun i)

inductive CompileRecords (number : Nat) (s : Subject) :
    List Event → Except Stop CheckResult → Prop
  | judged (reply) :
    CompileRecords number s [.invoked (b.building number s.artifact none) (.ran reply)]
      (.ok ((s.expected.judge (b.verdictOn (b.building number s.artifact none) reply)).named
        (Step.checkName Tool.compiler.shortName s.artifact)))
  | stopped {events e} :
    CompilerInvoked (b.building number s.artifact none) events (.error e) →
    CompileRecords number s events (.error e)

theorem CompileRecords.name_eq {number : Nat} {s : Subject} {events : List Event} {r : CheckResult}
    (h : b.CompileRecords number s events (.ok r)) :
    r.name = Step.checkName Tool.compiler.shortName s.artifact := by
  cases h
  rfl

variable {b} in
theorem CompileRecords.exists_eq {number : Nat} {s : Subject}
    {events : List Event} {r : Except Stop CheckResult}
    (h : b.CompileRecords number s events r) :
    ∃ answer, events = [.invoked (b.building number s.artifact none) answer] := by
  cases h
  case judged reply => exact ⟨.ran reply, rfl⟩
  case stopped h => exact h.exists_eq

theorem compile_records (h : Host σ) (number : Nat) (s : Subject) :
    (b.compile h number s).Records (b.CompileRecords number s) := by
  refine (invokeCompiler_records h _).bind (fun _ _ hs => .stopped hs) ?_
  rintro _ _ ⟨reply⟩
  exact .pure (.judged reply)

-- Whether a run of a program leaves no reason for another one.
def settles (i : Invocation) (reply : Reply) : Bool :=
  isDefect (b.verdictOn i reply) || reply.timedOut

inductive RunRecords (i : Invocation) : Nat → Nat → List Event → Except Stop RunsEnd → Prop
  | unstartable {attempt left} (f) :
    RunRecords i attempt left [.invoked i (.failed f)] (.ok (.unstartable f))
  | broke {attempt left} (message) :
    RunRecords i attempt left [.invoked i (.broke message)] (.error (.breakdown message))
  | last {attempt left} (reply) :
    left = 0 ∨ b.settles i reply = true →
    RunRecords i attempt left [.invoked i (.ran reply)]
      (.ok (.verdict (b.verdictOn i reply) attempt))
  | again {attempt left events r} (reply) :
    b.settles i reply = false → RunRecords i (attempt + 1) left events r →
    RunRecords i attempt (left + 1) (.invoked i (.ran reply) :: events) r

theorem runUntil_records (h : Host σ) (i : Invocation) (attempt left : Nat) :
    (b.runUntil h i attempt left).Records (b.RunRecords i attempt left) := by
  induction left generalizing attempt <;> rw [runUntil]
  case zero =>
    refine (Audit.Records.invoke h i).bind ?_ ?_ <;> rintro _ _ ⟨⟩
    case ran reply => exact .pure (.last reply <| .inl rfl)
    case failed f => exact .pure (.unstartable f)
    case broke message => exact .broke message
  case succ left hi =>
    refine (Audit.Records.invoke h i).bind ?_ ?_ <;> rintro _ _ ⟨⟩
    case ran reply =>
      dsimp only
      split
      case isTrue hr => exact .pure (.last reply <| .inr hr)
      case isFalse hr =>
        exact (hi _).mono fun _ _ hi => .again reply (eq_false_of_ne_true hr) hi
    case failed f => exact .pure (.unstartable f)
    case broke message => exact .broke message

variable {b} in
-- A program is run again and again, and nothing else happens.
theorem RunRecords.eq_invoked {i : Invocation} {attempt left : Nat} {events : List Event}
    {r : Except Stop RunsEnd} (h : b.RunRecords i attempt left events r) :
    ∀ e ∈ events, ∃ answer, e = .invoked i answer := by
  induction h
  case again hi => exact List.forall_mem_cons.2 ⟨⟨_, rfl⟩, hi⟩
  all_goals exact List.forall_mem_singleton.2 ⟨_, rfl⟩

inductive SanitizeRecords (number : Nat) (s : Subject) (tool : Tool) :
    List Event → Except Stop CheckResult → Prop
  | unbuilt (reply) :
    b.verdictOn (b.building number s.artifact tool) reply ≠ .clean →
    SanitizeRecords number s tool [.invoked (b.building number s.artifact tool) (.ran reply)]
      (.ok ((buildResult tool (b.verdictOn (b.building number s.artifact tool) reply)).named
        (Step.checkName tool.shortName s.artifact)))
  | ended (reply) {events e} :
    b.verdictOn (b.building number s.artifact tool) reply = .clean →
    b.RunRecords (b.running number s.artifact tool) 1 (b.attempts tool s.expected - 1) events
      (.ok e) →
    SanitizeRecords number s tool
      (.invoked (b.building number s.artifact tool) (.ran reply) :: events)
      (.ok ((runResult tool s.expected (b.attempts tool s.expected) e).named
        (Step.checkName tool.shortName s.artifact)))
  | broke (reply) {events e} :
    b.verdictOn (b.building number s.artifact tool) reply = .clean →
    b.RunRecords (b.running number s.artifact tool) 1 (b.attempts tool s.expected - 1) events
      (.error e) →
    SanitizeRecords number s tool
      (.invoked (b.building number s.artifact tool) (.ran reply) :: events) (.error e)
  | stopped {events e} :
    CompilerInvoked (b.building number s.artifact tool) events (.error e) →
    SanitizeRecords number s tool events (.error e)

theorem SanitizeRecords.name_eq {number : Nat} {s : Subject} {tool : Tool} {events : List Event}
    {r : CheckResult} (h : b.SanitizeRecords number s tool events (.ok r)) :
    r.name = Step.checkName tool.shortName s.artifact := by
  cases h <;> rfl

theorem sanitize_records (h : Host σ) (number : Nat) (s : Subject) (tool : Tool) :
    (b.sanitize h number s tool).Records (b.SanitizeRecords number s tool) := by
  refine (invokeCompiler_records h _).bind (fun _ _ hs => .stopped hs) ?_
  rintro _ _ ⟨reply⟩
  dsimp only
  split
  case h_1 hv =>
    exact (b.runUntil_records h _ _ _).bind (fun _ _ hr => .broke reply hv hr)
      fun _ _ hr => .pure (by simpa using .ended reply hv hr)
  case h_2 hv => exact .pure (.unbuilt reply hv)

-- An analyzer is invoked only where it is available.
inductive AnalyzeRecords (analyzer : String) (s : Subject) :
    Bool → List Event → Except Stop CheckResult → Prop
  | unavailable :
    AnalyzeRecords analyzer s false []
      (.ok ((notInstalled analyzer).named (Step.checkName analyzer s.artifact)))
  | judged (reply) :
    AnalyzeRecords analyzer s true [.invoked (b.analyzing analyzer s.artifact) (.ran reply)]
      (.ok ((s.expected.judge (b.verdictOn (b.analyzing analyzer s.artifact) reply)).named
        (Step.checkName analyzer s.artifact)))
  | gone (program) :
    AnalyzeRecords analyzer s true
      [.invoked (b.analyzing analyzer s.artifact) (.failed (.notFound program))]
      (.ok ((notInstalled analyzer).named (Step.checkName analyzer s.artifact)))
  | failed (f) :
    (∀ program, f ≠ .notFound program) →
    AnalyzeRecords analyzer s true [.invoked (b.analyzing analyzer s.artifact) (.failed f)]
      (.ok ⟨Step.checkName analyzer s.artifact, .inconclusive, f.message⟩)
  | broke (message) :
    AnalyzeRecords analyzer s true [.invoked (b.analyzing analyzer s.artifact) (.broke message)]
      (.error (.breakdown message))

theorem AnalyzeRecords.name_eq {analyzer : String} {s : Subject} {available : Bool}
    {events : List Event} {r : CheckResult}
    (h : b.AnalyzeRecords analyzer s available events (.ok r)) :
    r.name = Step.checkName analyzer s.artifact := by
  cases h <;> rfl

variable {b} in
theorem AnalyzeRecords.exists_analyzing {analyzer : String} {s : Subject} {available : Bool}
    {events : List Event} {r : Except Stop CheckResult}
    (h : b.AnalyzeRecords analyzer s available events r) :
    ∀ e ∈ events, ∃ i answer, e = .invoked i answer ∧ i.tool = .analyzer analyzer := by
  cases h
  case unavailable => exact List.forall_mem_nil _
  all_goals exact List.forall_mem_singleton.2 ⟨_, _, rfl, rfl⟩

theorem analyzeOne_records (h : Host σ) (analyzer : String) (available : Bool) (s : Subject) :
    (b.analyzeOne h analyzer available s).Records (b.AnalyzeRecords analyzer s available) := by
  cases available
  case false => exact .pure .unavailable
  case true =>
    refine (Audit.Records.invoke h _).bind ?_ ?_ <;> rintro _ _ ⟨⟩
    case ran reply => exact .pure (.judged reply)
    case failed f =>
      cases f
      case notFound program => exact .pure (.gone program)
      all_goals exact .pure (.failed _ nofun)
    case broke message => exact .broke message

theorem analyzeEach_records (h : Host σ) (analyzer : String) (available : Bool)
    (subjects : List Subject) :
    (b.analyzeEach h analyzer available subjects).Records
      (Audit.InTurn (b.AnalyzeRecords analyzer · available) subjects) := by
  induction subjects
  case nil => exact .pure .nil
  case cons s rest hi =>
    refine (b.analyzeOne_records h analyzer available s).bind (fun _ _ hs => .stopped hs) ?_
    intro _ r hr
    exact hi.bind (fun _ _ hs => .stoppedLater hr hs)
      fun _ _ hrs => .pure (by simpa using .cons hr hrs)

inductive StepRecords (number : Nat) :
    Step → List Event → Except Stop (List CheckResult) → Prop
  | compile {s events r} :
    b.CompileRecords number s events (.ok r) → StepRecords number (.compile s) events (.ok [r])
  | compileStopped {s events e} :
    b.CompileRecords number s events (.error e) →
    StepRecords number (.compile s) events (.error e)
  | skipCompile (a) :
    StepRecords number (.skipCompile a) []
      (.ok [⟨Step.checkName Tool.compiler.shortName a, .skipped, "not applicable to this role"⟩])
  | sanitize {s tool events r} :
    b.SanitizeRecords number s tool events (.ok r) →
    StepRecords number (.sanitize s tool) events (.ok [r])
  | sanitizeStopped {s tool events e} :
    b.SanitizeRecords number s tool events (.error e) →
    StepRecords number (.sanitize s tool) events (.error e)
  | review (a) :
    StepRecords number (.review a) []
      (.ok [⟨Step.checkName Step.reviewName a, .manualReview,
        "exploit success cannot be judged from tool output"⟩])
  | analyze {analyzer subjects events r} (available) :
    Audit.InTurn (b.AnalyzeRecords analyzer · available) subjects events r →
    StepRecords number (.analyze analyzer subjects) (.asked analyzer available :: events) r

theorem runStep_records (h : Host σ) (number : Nat) (step : Step) :
    (b.runStep h number step).Records (b.StepRecords number step) := by
  cases step
  case compile s =>
    exact (b.compile_records h number s).bind (fun _ _ hs => .compileStopped hs)
      fun _ _ hr => .pure (by simpa using .compile hr)
  case skipCompile a => exact .pure (.skipCompile a)
  case sanitize s tool =>
    exact (b.sanitize_records h number s tool).bind (fun _ _ hs => .sanitizeStopped hs)
      fun _ _ hr => .pure (by simpa using .sanitize hr)
  case review a => exact .pure (.review a)
  case analyze analyzer subjects =>
    refine (Audit.Records.isAvailable h analyzer).bind nofun ?_
    rintro _ available ⟨⟩
    exact (b.analyzeEach_records h analyzer available subjects).mono
      fun _ _ hr => .analyze available hr

-- The steps of a plan are carried out one after the other, the first of them with the given number.
def StepsRecord (number : Nat) (steps : List Step) (events : List Event) :
    Except Stop (List CheckResult) → Prop
  | .ok results => ∃ parts,
    Audit.InTurn (fun p => b.StepRecords p.1 p.2) (Step.numbered number steps) events (.ok parts) ∧
    results = parts.flatten
  | .error e =>
    Audit.InTurn (fun p => b.StepRecords p.1 p.2) (Step.numbered number steps) events (.error e)

theorem runSteps_records (h : Host σ) (number : Nat) (steps : List Step) :
    (b.runSteps h number steps).Records (b.StepsRecord number steps) := by
  induction steps generalizing number
  case nil => exact .pure ⟨[], .nil, rfl⟩
  case cons step rest hi =>
    refine (b.runStep_records h number step).bind (fun _ _ hs => .stopped hs) ?_
    intro _ here hh
    refine (hi (number + step.builds)).bind (fun _ _ hs => .stoppedLater hh hs) ?_
    rintro _ _ ⟨parts, hp, rfl⟩
    exact .pure ⟨here :: parts, by simpa using .cons hh hp, rfl⟩

end Bench

-- What comes of asking the compiler for its version.
inductive VersionRecords (v : Auditor) : List Event → Except Stop (Option UInt32) → Prop
  | missing :
    VersionRecords v [.asked v.config.compiler false]
      (.error (.failure (.toolchainMissing v.config.compiler)))
  | parsed (reply) :
    VersionRecords v
      [.asked v.config.compiler true, .invoked (Toolchain.version v.config) (.ran reply)]
      (.ok (CompilerVersion.parse? reply.output))
  | stopped {events e} :
    CompilerInvoked (Toolchain.version v.config) events (.error e) →
    VersionRecords v (.asked v.config.compiler true :: events) (.error e)

theorem askVersion_records (v : Auditor) (h : Host σ) :
    (v.askVersion h).Records v.VersionRecords := by
  refine (Audit.Records.isAvailable h _).bind nofun ?_
  rintro _ available ⟨⟩
  cases available
  case false => exact .stop .missing
  case true =>
    refine (invokeCompiler_records h _).bind (fun _ _ hs => .stopped hs) ?_
    rintro _ _ ⟨reply⟩
    exact .pure (.parsed reply)

-- How the version of the compiler comes to be known: what was known of it before, what is asked,
-- and what is known then.
inductive MajorRecords (v : Auditor) : Option (Option UInt32) → List Event →
    Option (Option UInt32) → Except Stop (Option UInt32) → Prop
  | known (major) : MajorRecords v (some major) [] (some major) (.ok major)
  | learned {events major} :
    v.VersionRecords events (.ok major) → MajorRecords v none events (some major) (.ok major)
  | failed {events e} :
    v.VersionRecords events (.error e) → MajorRecords v none events none (.error e)

theorem compilerMajor_records (v : Auditor) (h : Host σ) (s : Session σ) :
    ∃ events, (v.compilerMajor h s).2.journal = s.journal ++ events ∧
      v.MajorRecords s.compiler events (v.compilerMajor h s).2.compiler
        (v.compilerMajor h s).1 := by
  rcases s with ⟨host, _ | major, journal⟩
  case some => exact ⟨[], (List.append_nil _).symm, .known major⟩
  case none =>
    simp only [compilerMajor]
    have ⟨events, hc, hr⟩ := v.askVersion_records h ⟨host, none, journal⟩
    rcases ha : v.askVersion h ⟨host, none, journal⟩ with ⟨e | major, t⟩ <;> rw [ha] at hc hr
    case error => exact ⟨events, hc.journal, hc.compiler ▸ .failed hr⟩
    case ok => exact ⟨events, hc.journal, .learned hr⟩

-- The scorecard of a pattern, from the results that need a compiler.
def scorecard (files : FileTree) (directory : Path) (artifacts : Artifacts)
    (built : List CheckResult) : Scorecard where
  patternName := Course.patternName directory
  module := Course.moduleName directory
  directory
  results := artifacts.presences ++ built ++ [Documentation.check files artifacts.documentation]

-- What carrying out the steps of a plan records, once the version of the compiler is known.
def BuildResultsRecord (v : Auditor) (major : Option UInt32) (steps : List Step) :
    List Event → Except Stop (List CheckResult) → Prop :=
  Audit.BuildRecords fun build => (Bench.mk v major build).StepsRecord 1 steps

-- What a whole validation records: what was known of the compiler before, the exchanges, what is
-- known of the compiler then, and the result.
inductive ValidateRecords (v : Auditor) (files : FileTree) (directory : Path) (options : Options) :
    Option (Option UInt32) → List Event → Option (Option UInt32) → Except Stop Scorecard → Prop
  | undiscovered (known) {f} :
    Artifacts.discover files directory = .error f →
    ValidateRecords v files directory options known [] known (.error (.failure f))
  | skipped (known) {artifacts} :
    Artifacts.discover files directory = .ok artifacts → options.skipBuild = true →
    ValidateRecords v files directory options known [] known
      (.ok (scorecard files directory artifacts []))
  | noMajor {artifacts known events known' e} :
    Artifacts.discover files directory = .ok artifacts → options.skipBuild = false →
    v.MajorRecords known events known' (.error e) →
    ValidateRecords v files directory options known events known' (.error e)
  | stopped {artifacts known before known' major events e} :
    Artifacts.discover files directory = .ok artifacts → options.skipBuild = false →
    v.MajorRecords known before known' (.ok major) →
    v.BuildResultsRecord major
      (v.steps options.mode (Course.moduleName directory) artifacts.sources) events (.error e) →
    ValidateRecords v files directory options known (before ++ events) known' (.error e)
  | built {artifacts known before known' major events results} :
    Artifacts.discover files directory = .ok artifacts → options.skipBuild = false →
    v.MajorRecords known before known' (.ok major) →
    v.BuildResultsRecord major
      (v.steps options.mode (Course.moduleName directory) artifacts.sources) events (.ok results) →
    ValidateRecords v files directory options known (before ++ events) known'
      (.ok (scorecard files directory artifacts results))

section

variable {v : Auditor} {files : FileTree} {h : Host σ} {directory : Path} {options : Options}
variable {s : Session σ}

theorem validate_of_undiscovered {f : AuditFailure}
    (hd : Artifacts.discover files directory = .error f) :
    v.validate files h directory options s = (.error (.failure f), s) := by
  simp only [validate, Audit.bind_apply, hd]
  rfl

theorem validate_of_skipBuild {artifacts : Artifacts}
    (hd : Artifacts.discover files directory = .ok artifacts) (ho : options.skipBuild = true) :
    v.validate files h directory options s =
      (.ok (scorecard files directory artifacts []), s) := by
  simp only [validate, Audit.bind_apply, hd, Audit.ofExcept, Audit.pure_apply, ho, if_true]
  rfl

theorem validate_of_discover {artifacts : Artifacts}
    (hd : Artifacts.discover files directory = .ok artifacts) (ho : options.skipBuild = false) :
    v.validate files h directory options s =
      (v.buildResults h (v.steps options.mode (Course.moduleName directory) artifacts.sources)
        s).map (·.map (scorecard files directory artifacts)) id := by
  simp only [validate, Audit.bind_apply, hd, Audit.ofExcept, Audit.pure_apply, ho,
    Bool.false_eq_true, if_false]
  rcases v.buildResults h _ s with ⟨_ | _, _⟩ <;> rfl

end

theorem validate_records (v : Auditor) (files : FileTree) (h : Host σ) (directory : Path)
    (options : Options) (s : Session σ) :
    ∃ events, (v.validate files h directory options s).2.journal = s.journal ++ events ∧
      v.ValidateRecords files directory options s.compiler events
        (v.validate files h directory options s).2.compiler
        (v.validate files h directory options s).1 := by
  rcases hd : Artifacts.discover files directory with f | artifacts
  case error =>
    rw [validate_of_undiscovered hd]
    exact ⟨[], (List.append_nil _).symm, .undiscovered _ hd⟩
  case ok =>
    rcases ho : options.skipBuild
    case true =>
      rw [validate_of_skipBuild hd ho]
      exact ⟨[], (List.append_nil _).symm, .skipped _ hd ho⟩
    case false =>
      have ⟨before, hb, hm⟩ := v.compilerMajor_records h s
      rw [validate_of_discover hd ho, buildResults, Audit.bind_apply]
      rcases hr : v.compilerMajor h s with ⟨e | major, t⟩ <;> rw [hr] at hb hm
      case error => exact ⟨before, hb, .noMajor hd ho hm⟩
      case ok =>
        have ⟨events, hc, hs⟩ := Audit.Records.withBuild h (fun build =>
          (Bench.mk v major build).runSteps_records h 1
            (v.steps options.mode (Course.moduleName directory) artifacts.sources)) t
        dsimp only
        rcases hw : Audit.withBuild h _ t with ⟨e | results, u⟩ <;> rw [hw] at hc hs
        all_goals
          have hj : u.journal = s.journal ++ (before ++ events) := by
            rw [hc.journal, hb, List.append_assoc]
        case error => exact ⟨_, hj, hc.compiler ▸ .stopped hd ho hm hs⟩
        case ok => exact ⟨_, hj, hc.compiler ▸ .built hd ho hm hs⟩

-- A validation that does not stop either builds nothing or carries out the whole plan.
theorem ValidateRecords.cases_of_ok {v : Auditor} {files : FileTree} {directory : Path}
    {options : Options} {known known' : Option (Option UInt32)} {events : List Event}
    {card : Scorecard}
    (h : v.ValidateRecords files directory options known events known' (.ok card)) :
    ∃ artifacts results, Artifacts.discover files directory = .ok artifacts ∧
      card = scorecard files directory artifacts results ∧
      (options.skipBuild = true ∧ results = [] ∨
        options.skipBuild = false ∧ ∃ before major later,
          events = before ++ later ∧ v.MajorRecords known before known' (.ok major) ∧
          v.BuildResultsRecord major
            (v.steps options.mode (Course.moduleName directory) artifacts.sources) later
            (.ok results)) := by
  -- The case analysis is not to look into the scorecard, which it would compute.
  generalize hc : Except.ok card = r at h
  cases h
  case skipped artifacts hd ho => exact ⟨artifacts, [], hd, Except.ok.inj hc, .inl ⟨ho, rfl⟩⟩
  case built artifacts before major later results hd ho hb hm =>
    exact ⟨artifacts, results, hd, Except.ok.inj hc, .inr ⟨ho, _, _, _, rfl, hm, hb⟩⟩
  all_goals cases hc

theorem validate_ok {v : Auditor} {files : FileTree} {h : Host σ} {directory : Path}
    {options : Options} {s : Session σ} {card : Scorecard}
    (hv : (v.validate files h directory options s).1 = .ok card) :
    ∃ artifacts results, Artifacts.discover files directory = .ok artifacts ∧
      card = scorecard files directory artifacts results ∧
      (options.skipBuild = true ∧ results = [] ∨
        options.skipBuild = false ∧ ∃ before major events,
          (v.validate files h directory options s).2.journal = s.journal ++ (before ++ events) ∧
          v.MajorRecords s.compiler before (v.validate files h directory options s).2.compiler
            (.ok major) ∧
          v.BuildResultsRecord major
            (v.steps options.mode (Course.moduleName directory) artifacts.sources) events
            (.ok results)) := by
  obtain ⟨events, hj, hr⟩ := v.validate_records files h directory options s
  rw [hv] at hr
  obtain ⟨artifacts, results, hd, hc, hr⟩ := hr.cases_of_ok
  refine ⟨artifacts, results, hd, hc, hr.imp_right ?_⟩
  rintro ⟨ho, before, major, later, rfl, hm, hb⟩
  exact ⟨ho, before, major, later, hj, hm, hb⟩

end Auditor
end CourseAudit
