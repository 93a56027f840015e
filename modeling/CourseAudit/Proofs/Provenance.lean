import CourseAudit.Proofs.Products

/-!
Where the programs come from that a validation runs. Each of them was built without an error for the
check that it is run for, right before it is run. Main statement: `validate_provenance`.
-/
namespace CourseAudit

namespace Auditor
namespace Bench

variable {b : Bench} {number : Nat} {events : List Event} {steps : List Step}

-- A run of a program for a sanitizer comes right after the build of the program, and other runs of
-- the program may be in between.
theorem SanitizeRecords.exists_build {s : Subject} {tool : Tool} {r : Except Stop CheckResult}
    {here there : List Event} {i : Invocation} {answer : Answer}
    (h : b.SanitizeRecords number s tool (here ++ .invoked i answer :: there) r)
    (hi : i.tool ≠ .compiler) :
    i = b.running number s.artifact tool ∧ ∃ reply between,
      here = .invoked (b.building number s.artifact tool) (.ran reply) :: between ∧
      reply.exitedCleanly = true ∧ ∀ e ∈ between, ∃ answer, e = .invoked i answer := by
  obtain ⟨answer', runs, hj, hr, hc⟩ := h.exists_eq_cons
  cases here
  case nil =>
    cases hj
    exact absurd rfl hi
  case cons e between =>
    obtain ⟨rfl, rfl⟩ := List.cons.inj hj
    obtain ⟨reply, rfl, hv⟩ := hc (List.append_ne_nil_of_right_ne_nil _ (List.cons_ne_nil _ _))
    obtain ⟨hb, hi⟩ := List.forall_mem_append.1 hr
    obtain ⟨_, hi⟩ := hi _ List.mem_cons_self
    cases hi
    exact ⟨rfl, reply, between, rfl, hv, hb⟩

-- The first step of a plan either stops the validation or leaves the rest of the plan to do.
theorem StepsRecord.cases_of_cons {step : Step} {r : Except Stop (List CheckResult)}
    (h : b.StepsRecord number (step :: steps) events r) :
    (∃ e, r = .error e ∧ b.StepRecords number step events (.error e)) ∨
    ∃ here later rs r', events = here ++ later ∧ b.StepRecords number step here (.ok rs) ∧
      b.StepsRecord (number + step.builds) steps later r' ∧ r = r'.map (rs ++ ·) := by
  cases r
  case error =>
    cases h
    case stopped h => exact .inl ⟨_, rfl, h⟩
    case stoppedLater h hl => exact .inr ⟨_, _, _, .error _, rfl, h, hl, rfl⟩
  case ok =>
    obtain ⟨parts, h, rfl⟩ := h
    cases h
    case cons cs h hl => exact .inr ⟨_, _, _, .ok cs.flatten, rfl, h, ⟨cs, hl, rfl⟩, rfl⟩

theorem StepRecords.length_eq {step : Step} {rs : List CheckResult}
    (h : b.StepRecords number step events (.ok rs)) : rs.length = (step.checks number).length := by
  have hn := congrArg List.length h.names_eq
  rw [List.length_map] at hn
  rw [hn]
  cases step
  case analyze => simp [Step.names, Step.checks]
  all_goals rfl

variable (b) in
-- A step of a plan with its exchanges. Its checks stand at place `p` in those of the plan, and if
-- the plan is carried out to the end, so do its results.
structure StepAt (number : Nat) (steps : List Step) (r : Except Stop (List CheckResult)) (p n : Nat)
    (step : Step) (block : List Event) (part : Except Stop (List CheckResult)) : Prop where
  planned : step ∈ steps
  records : b.StepRecords n step block part
  checks  : ∀ q c, (step.checks n)[q]? = some c → (stepsChecks number steps)[p + q]? = some c
  results : ∀ results, r = .ok results →
    ∃ rs, part = .ok rs ∧ ∀ q x, rs[q]? = some x → results[p + q]? = some x

theorem StepAt.later {step next : Step} {rs : List CheckResult} {p n : Nat} {block : List Event}
    {r part : Except Stop (List CheckResult)} (h : b.StepRecords number step events (.ok rs))
    (ha : b.StepAt (number + step.builds) steps r p n next block part) :
    b.StepAt number (step :: steps) (r.map (rs ++ ·)) (rs.length + p) n next block part where
  planned := List.mem_cons_of_mem _ ha.planned
  records := ha.records
  checks q c hc := by
    rw [stepsChecks, Nat.add_assoc, h.length_eq,
      List.getElem?_append_right (Nat.le_add_right ..), Nat.add_sub_cancel_left]
    exact ha.checks q c hc
  results := by
    rintro _ hr
    cases r <;> cases hr
    case ok =>
      obtain ⟨rs', hp, hx⟩ := ha.results _ rfl
      refine ⟨rs', hp, fun q x hq => ?_⟩
      rw [Nat.add_assoc, List.getElem?_append_right (Nat.le_add_right ..),
        Nat.add_sub_cancel_left]
      exact hx q x hq

-- Every exchange belongs to a step.
theorem StepsRecord.exists_stepAt {before after : List Event} {e : Event}
    {r : Except Stop (List CheckResult)}
    (h : b.StepsRecord number steps (before ++ e :: after) r) :
    ∃ front here there behind p n step part, before = front ++ here ∧ after = there ++ behind ∧
      b.StepAt number steps r p n step (here ++ e :: there) part := by
  generalize he : before ++ e :: after = events at h
  induction steps generalizing number before events r
  case nil =>
    cases r
    case error => cases h
    case ok =>
      obtain ⟨_, h, -⟩ := h
      cases h
      simp at he
  case cons step rest hi =>
    have hc (q : Nat) (c : Check) (hq : (step.checks number)[q]? = some c) :
        (stepsChecks number (step :: rest))[0 + q]? = some c := by
      rw [stepsChecks, Nat.zero_add, List.getElem?_append_left (List.getElem?_eq_some_iff.1 hq).1]
      exact hq
    rcases h.cases_of_cons with ⟨stop, rfl, hb⟩ | ⟨block, later, rs, r', rfl, hb, hl, rfl⟩
    case inl =>
      subst he
      refine ⟨[], before, after, [], 0, number, step, _, rfl, (List.append_nil _).symm,
        List.mem_cons_self, hb, hc, ?_⟩
      rintro _ ⟨⟩
    case inr =>
      rcases append_eq_append_cons he.symm with ⟨there, rfl, rfl⟩ | ⟨here, rfl, rfl⟩
      case inl =>
        refine ⟨[], before, there, later, 0, number, step, _, rfl, rfl, List.mem_cons_self, hb, hc,
          fun results hr => ⟨rs, rfl, fun q x hq => ?_⟩⟩
        cases r' <;> cases hr
        rw [Nat.zero_add, List.getElem?_append_left (List.getElem?_eq_some_iff.1 hq).1]
        exact hq
      case inr =>
        obtain ⟨front, here, there, behind, p, n, next, part, rfl, rfl, ha⟩ := hi _ rfl hl
        exact ⟨block ++ front, here, there, behind, rs.length + p, n, next, part,
          (List.append_assoc ..).symm, rfl, .later hb ha⟩

-- The one check of a step for a sanitizer stands at the place of the step.
theorem StepAt.of_sanitize {r part : Except Stop (List CheckResult)} {p n : Nat} {s : Subject}
    {tool : Tool} {block : List Event}
    (ha : b.StepAt number steps r p n (.sanitize s tool) block part) :
    (∃ r', b.SanitizeRecords n s tool block r') ∧
      (stepsChecks number steps)[p]? = some (.sanitize n s tool) ∧
      ∀ results, r = .ok results →
        ∃ x, results[p]? = some x ∧ b.SanitizeRecords n s tool block (.ok x) := by
  have hc := ha.checks 0 (.sanitize n s tool) rfl
  have hr := ha.results
  cases ha.records
  case sanitize x h =>
    refine ⟨⟨_, h⟩, hc, fun results he => ?_⟩
    obtain ⟨_, ⟨⟩, hx⟩ := hr results he
    exact ⟨x, hx 0 x rfl, h⟩
  case sanitizeStopped h =>
    refine ⟨⟨_, h⟩, hc, fun results he => ?_⟩
    obtain ⟨_, ⟨⟩, -⟩ := hr results he

-- Only a step for a sanitizer runs a program.
theorem StepRecords.exists_sanitize {step : Step} {r : Except Stop (List CheckResult)}
    {i : Invocation} {answer : Answer} (h : b.StepRecords number step events r)
    (hi : i.tool.isSanitizer = true) (he : .invoked i answer ∈ events) :
    ∃ s tool, step = .sanitize s tool := by
  have hc {s : Subject} {r : Except Stop CheckResult} (h : b.CompileRecords number s events r) :
      False := by
    obtain ⟨_, rfl⟩ := h.exists_eq
    cases List.mem_singleton.1 he
    cases hi
  cases h
  case compile h => exact (hc h).elim
  case compileStopped h => exact (hc h).elim
  case skipCompile => cases he
  case sanitize s tool _ _ => exact ⟨s, tool, rfl⟩
  case sanitizeStopped s tool _ _ => exact ⟨s, tool, rfl⟩
  case review => cases he
  case analyze h =>
    have he := (List.mem_cons.1 he).resolve_left nofun
    obtain ⟨j, answer, he, hj⟩ := h.forall_mem (fun s _ _ _ h => h.exists_analyzing) _ he
    cases he
    rw [hj] at hi
    cases hi

-- What makes a run of a program for a sanitizer a run of what was built of a source.
structure BuiltFor (build : Path) (source : Artifact) (i j : Invocation) (reply : Reply) :
    Prop where
  output    : j.output? = some i.program
  args      : ∃ flags, j.args = flags ++ ["-pthread", source.path.text, "-o", i.program]
  flag      : ∃ flag, i.tool.sanitizerFlag? = some flag ∧ "-fsanitize=" ++ flag ∈ j.args
  succeeded : reply.exitCode = some 0 ∧ reply.timedOut = false
  directory : i.workingDir = some build

theorem builtFor_of_exitedCleanly (n : Nat) (a : Artifact) {tool : Tool}
    (ht : tool.isSanitizer = true) {reply : Reply} (hr : reply.exitedCleanly = true) :
    BuiltFor b.build a (b.running n a tool) (b.building n a tool) reply where
  output    := by rw [output?_building, program_running]; rfl
  args      := by
    rw [program_running]
    exact ⟨_, rfl⟩
  flag      := by
    rw [tool_running]
    obtain ⟨flag, hf⟩ := Option.isSome_iff_exists.1 ht
    refine ⟨flag, hf, ?_⟩
    simp [building, Toolchain.compile, Invocation.addArgs, Toolchain.instrumentation, hf]
  succeeded := by simpa [Reply.exitedCleanly, and_comm] using hr
  directory := by
    rw [running, Toolchain.run]
    split <;> rfl

end Bench

variable (v : Auditor) (files : FileTree) (directory : Path) (options : Options)

-- Some exchanges make up the check of a source under a sanitizer, and the result at the place of
-- this check is what came of them.
def MakeUp (result : Except Stop Scorecard) (b : Bench) (source : Artifact) (tool : Tool)
    (block : List Event) : Prop :=
  ∃ (artifacts : Artifacts) (p number : Nat) (expected : Expected),
    Artifacts.discover files directory = .ok artifacts ∧
    (v.checks options (Course.moduleName directory) artifacts.sources)[p]? =
      some (Check.sanitize number ⟨source, expected⟩ tool) ∧
    ∀ card : Scorecard, result = .ok card → ∃ r, card.results[p]? = some r ∧
      r.name = tool.shortName ++ ":" ++ source.fileName ∧
      b.SanitizeRecords number ⟨source, expected⟩ tool block (.ok r)

-- The run of a program, by what was exchanged before and after it. The invocation of the compiler
-- that came last before the run has built the program, and both belong to the check of one source.
def RestsOnBuild (build : Path) (result : Except Stop Scorecard) (before : List Event)
    (i : Invocation) (answer : Answer) (after : List Event) : Prop :=
  ∃ earlier j reply between further behind major source,
    before = earlier ++ .invoked j (.ran reply) :: between ∧ after = further ++ behind ∧
    (∀ k answer, .invoked k answer ∈ between → k.tool ≠ .compiler) ∧
    Bench.BuiltFor build source i j reply ∧
    MakeUp v files directory options result ⟨v, major, build⟩ source i.tool
      (.invoked j (.ran reply) :: between ++ .invoked i answer :: further)

-- Where the programs come from that are run with a directory for builds.
structure Provenance (build : Path) (events : List Event) (result : Except Stop Scorecard) :
    Prop where
  nodup  : (outputs events).Nodup
  child  : ∀ output ∈ outputs events, IsChild output build
  run    : ∀ before i answer after, events = before ++ .invoked i answer :: after →
    i.tool.isSanitizer = true →
    RestsOnBuild v files directory options build result before i answer after
  failed : ∀ before j answer after output, events = before ++ .invoked j answer :: after →
    j.output? = some output →
    (∀ reply, answer = .ran reply → ¬(reply.exitCode = some 0 ∧ reply.timedOut = false)) →
    ∀ i answer', .invoked i answer' ∈ after → i.tool.isSanitizer = true → i.program ≠ output

-- What is exchanged with the host before a directory for builds is there, or without one.
inductive Preparation : Event → Prop
  | asked (program available) : Preparation (.asked program available)
  | version (answer) : Preparation (.invoked (Toolchain.version v.config) answer)
  | noBuild : Preparation .noBuild

variable {v files directory options}

theorem CompilerInvoked.preparation {events : List Event} {r : Except Stop ToolRun}
    (h : CompilerInvoked (Toolchain.version v.config) events r) :
    ∀ e ∈ events, v.Preparation e := by
  obtain ⟨answer, rfl⟩ := h.exists_eq
  exact List.forall_mem_singleton.2 (.version answer)

theorem MajorRecords.preparation {known known' : Option (Option UInt32)} {events : List Event}
    {r : Except Stop (Option UInt32)} (h : v.MajorRecords known events known' r) :
    ∀ e ∈ events, v.Preparation e := by
  have hv {events : List Event} {r : Except Stop (Option UInt32)}
      (h : v.VersionRecords events r) : ∀ e ∈ events, v.Preparation e := by
    cases h
    case missing => exact List.forall_mem_singleton.2 (.asked ..)
    case parsed reply =>
      exact List.forall_mem_cons.2 ⟨.asked .., List.forall_mem_singleton.2 (.version _)⟩
    case stopped h => exact List.forall_mem_cons.2 ⟨.asked .., h.preparation⟩
  cases h
  case known => exact List.forall_mem_nil _
  case learned h => exact hv h
  case failed h => exact hv h

-- The checks of a plan stand behind the two for the sources, and so do their results.
theorem getElem?_checks {module : String} {sources : List Artifact} (ho : options.skipBuild = false)
    {p : Nat} {c : Check}
    (hc : (stepsChecks 1 (v.steps options.mode module sources))[p]? = some c) :
    (v.checks options module sources)[p + 2]? = some c := by
  have hp := (List.getElem?_eq_some_iff.1 hc).1
  simp only [checks, ho, Bool.false_eq_true, if_false, List.cons_append, List.nil_append,
    List.getElem?_cons_succ]
  rw [List.getElem?_append_left hp, hc]

theorem getElem?_results {artifacts : Artifacts} {built : List CheckResult} {p : Nat}
    {r : CheckResult} (hr : built[p]? = some r) :
    (scorecard files directory artifacts built).results[p + 2]? = some r := by
  have hp := (List.getElem?_eq_some_iff.1 hr).1
  simp only [scorecard, Artifacts.presences, List.cons_append, List.nil_append,
    List.getElem?_cons_succ]
  rw [List.getElem?_append_left hp, hr]

section

variable {artifacts : Artifacts} {major : Option UInt32} {build : Path} {events : List Event}
variable {r : Except Stop (List CheckResult)}

theorem Bench.StepsRecord.restsOnBuild {before after : List Event} {i : Invocation}
    {answer : Answer} (hd : Artifacts.discover files directory = .ok artifacts)
    (ho : options.skipBuild = false)
    (h : (Bench.mk v major build).StepsRecord 1
      (v.steps options.mode (Course.moduleName directory) artifacts.sources)
      (before ++ .invoked i answer :: after) r)
    (hi : i.tool.isSanitizer = true) :
    RestsOnBuild v files directory options build (r.map (scorecard files directory artifacts))
      before i answer after := by
  obtain ⟨front, here, there, behind, p, n, step, part, rfl, rfl, ha⟩ := h.exists_stepAt
  obtain ⟨⟨a, expected⟩, tool, rfl⟩ := ha.records.exists_sanitize hi
    (List.mem_append_right _ List.mem_cons_self)
  have ht : tool.isSanitizer = true := isPlanned_of_mem_steps ha.planned
  obtain ⟨⟨_, hb⟩, hc, hx⟩ := ha.of_sanitize
  obtain ⟨rfl, reply, between, rfl, hv, hw⟩ :=
    hb.exists_build (Tool.ne_compiler_of_isSanitizer hi)
  have hf := builtFor_of_exitedCleanly (b := ⟨v, major, build⟩) n a ht hv
  refine ⟨front, _, reply, between, there, behind, major, a, rfl, rfl, ?_, hf,
    artifacts, p + 2, n, expected, hd, ?_, ?_⟩
  case refine_1 =>
    intro k answer hk
    obtain ⟨_, hk⟩ := hw _ hk
    cases hk
    exact Tool.ne_compiler_of_isSanitizer hi
  case refine_2 =>
    rw [tool_running]
    exact getElem?_checks ho hc
  case refine_3 =>
    intro card hr
    rcases r with e | results
    case error => cases hr
    case ok =>
      obtain ⟨x, hq, hx⟩ := hx results rfl
      rw [tool_running, ← Except.ok.inj hr]
      exact ⟨x, getElem?_results hq, hx.name_eq, hx⟩

theorem Bench.StepsRecord.provenance (hd : Artifacts.discover files directory = .ok artifacts)
    (ho : options.skipBuild = false)
    (h : (Bench.mk v major build).StepsRecord 1
      (v.steps options.mode (Course.moduleName directory) artifacts.sources) events r) :
    Provenance v files directory options build events
      (r.map (scorecard files directory artifacts)) := by
  have hp := h.outputs_prefix fun _ => isPlanned_of_mem_steps
  have hn := hp.sublist.nodup (nodup_outputs ..)
  refine ⟨hn, fun output ho => ?_, fun before i answer after he hi => ?_, ?_⟩
  case refine_1 =>
    exact isChild_of_mem_outputs (fun _ => isPlanned_of_mem_steps) (hp.subset ho)
  case refine_2 =>
    subst he
    exact h.restsOnBuild hd ho hi
  case refine_3 =>
    -- The build that the run rests on makes the same output, so it is this one.
    rintro before j answer after output rfl hj hf i answer' hi ht rfl
    obtain ⟨between, behind, rfl⟩ := List.append_of_mem hi
    rw [← List.cons_append, ← List.append_assoc] at h hn
    obtain ⟨_, j', reply, _, _, _, _, _, he, -, -, hb, -⟩ := h.restsOnBuild hd ho ht
    have hm : .invoked j answer ∈ before ++ .invoked j answer :: between :=
      List.mem_append_right _ List.mem_cons_self
    have hm' : .invoked j' (.ran reply) ∈ before ++ .invoked j answer :: between :=
      he ▸ List.mem_append_right _ List.mem_cons_self
    cases eq_of_output?_eq hn (List.mem_append_left _ hm) (List.mem_append_left _ hm') hj hb.output
    exact hf reply rfl hb.succeeded

end

theorem ValidateRecords.provenance {known known' : Option (Option UInt32)} {events : List Event}
    {result : Except Stop Scorecard}
    (h : v.ValidateRecords files directory options known events known' result) :
    (∀ e ∈ events, v.Preparation e) ∨ ∃ before build later,
      events = before ++ .openedBuild build :: later ++ [.closedBuild build] ∧
      (∀ e ∈ before, v.Preparation e) ∧
      v.Provenance files directory options build later result := by
  have hb {artifacts : Artifacts} {known known' : Option (Option UInt32)}
      {before events : List Event} {major : Option UInt32} {r : Except Stop (List CheckResult)}
      (hd : Artifacts.discover files directory = .ok artifacts) (ho : options.skipBuild = false)
      (hm : v.MajorRecords known before known' (.ok major))
      (hb : v.BuildResultsRecord major
        (v.steps options.mode (Course.moduleName directory) artifacts.sources) events r) :
      (∀ e ∈ before ++ events, v.Preparation e) ∨ ∃ before' build later,
        before ++ events = before' ++ .openedBuild build :: later ++ [.closedBuild build] ∧
        (∀ e ∈ before', v.Preparation e) ∧
        v.Provenance files directory options build later
          (r.map (scorecard files directory artifacts)) := by
    cases hb
    case none =>
      exact .inl <| List.forall_mem_append.2
        ⟨hm.preparation, List.forall_mem_singleton.2 .noBuild⟩
    case opened build later hs =>
      exact .inr ⟨before, build, later, (List.append_assoc ..).symm, hm.preparation,
        hs.provenance hd ho⟩
  cases h
  case undiscovered => exact .inl (List.forall_mem_nil _)
  case skipped => exact .inl (List.forall_mem_nil _)
  case noMajor hm => exact .inl hm.preparation
  case stopped hd ho hs hm => exact hb hd ho hm hs
  case built hd ho hs hm => exact hb hd ho hm hs

-- Whatever a validation runs, it has built it for that purpose, unless nothing is built at all.
theorem validate_provenance {σ : Type} (v : Auditor) (files : FileTree) (h : Host σ)
    (directory : Path) (options : Options) (s : Session σ) :
    ∃ events, (v.validate files h directory options s).2.journal = s.journal ++ events ∧
      ((∀ e ∈ events, v.Preparation e) ∨ ∃ before build later,
        events = before ++ .openedBuild build :: later ++ [.closedBuild build] ∧
        (∀ e ∈ before, v.Preparation e) ∧
        v.Provenance files directory options build later
          (v.validate files h directory options s).1) := by
  obtain ⟨events, hj, hr⟩ := v.validate_records files h directory options s
  exact ⟨events, hj, hr.provenance⟩

end Auditor
end CourseAudit
