import CourseAudit.Proofs.Outputs
import CourseAudit.Proofs.Renaming

/-!
Two validations on hosts that agree. Parts of validations are compared by how they end, whatever the
hosts went through before, so that each part needs one lemma only (`*_alike`). A comparison is
strict if the one part stops whenever the other one does; otherwise only parts that end well are
compared. Main statement: `validate_ends`.
-/
namespace CourseAudit

variable {σ τ α α' β β' : Type}

inductive AuditFailure.Renamed (b b' : Path) : AuditFailure → AuditFailure → Prop
  | same (f) : Renamed b b' f f
  | toolchainMissing {compiler compiler'} :
    CourseAudit.Renamed b b' compiler compiler' →
    Renamed b b' (.toolchainMissing compiler) (.toolchainMissing compiler')
  | buildDirectory {causes causes'} :
    List.Forall₂ (CourseAudit.Renamed b b') causes causes' →
    Renamed b b' (.buildDirectory causes) (.buildDirectory causes')
  | tool {f f'} : ToolFailure.Renamed b b' f f' → Renamed b b' (.tool f) (.tool f')

inductive Stop.Renamed (b b' : Path) : Stop → Stop → Prop
  | failure {f f'} : AuditFailure.Renamed b b' f f' → Renamed b b' (.failure f) (.failure f')
  | breakdown {message message'} :
    Option.Rel (CourseAudit.Renamed b b') message message' →
    Renamed b b' (.breakdown message) (.breakdown message')

-- How two parts end.
inductive Ends (strict : Prop) (E : Stop → Stop → Prop) (R : α → α' → Prop) :
    Except Stop α → Except Stop α' → Prop
  | done {a a'} : R a a' → Ends strict E R (.ok a) (.ok a')
  | stopped {e e'} : E e e' → Ends strict E R (.error e) (.error e')
  | left {e r'} : ¬strict → Ends strict E R (.error e) r'
  | right {r e'} : ¬strict → Ends strict E R r (.error e')

theorem Ends.mono {strict : Prop} {E E' : Stop → Stop → Prop} {R R' : α → α' → Prop}
    {r : Except Stop α} {r' : Except Stop α'} (h : Ends strict E R r r')
    (he : ∀ e e', E e e' → E' e e') (hr : ∀ a a', R a a' → R' a a') : Ends strict E' R' r r' := by
  cases h
  case done h => exact .done (hr _ _ h)
  case stopped h => exact .stopped (he _ _ h)
  case left h => exact .left h
  case right h => exact .right h

-- Under a strict comparison, both parts end well or both of them stop.
theorem Ends.cases_of_strict {E : Stop → Stop → Prop} {R : α → α' → Prop} {r : Except Stop α}
    {r' : Except Stop α'} (h : Ends True E R r r') :
    (∃ a a', r = .ok a ∧ r' = .ok a' ∧ R a a') ∨
      ∃ e e', r = .error e ∧ r' = .error e' ∧ E e e' := by
  cases h
  case done a a' h => exact .inl ⟨a, a', rfl, rfl, h⟩
  case stopped e e' h => exact .inr ⟨e, e', rfl, rfl, h⟩
  case left hn => exact absurd trivial hn
  case right hn => exact absurd trivial hn

theorem Ends.map {strict : Prop} {E : Stop → Stop → Prop} {R : α → α' → Prop}
    {S : β → β' → Prop} {r : Except Stop α} {r' : Except Stop α'} {f : α → β} {g : α' → β'}
    (h : Ends strict E R r r') (hs : ∀ a a', R a a' → S (f a) (g a')) :
    Ends strict E S (r.map f) (r'.map g) := by
  cases h
  case done h => exact .done (hs _ _ h)
  case stopped h => exact .stopped h
  case left h => exact .left h
  case right h => exact .right h

namespace Audit

def Alike (strict : Prop) (E : Stop → Stop → Prop) (R : α → α' → Prop) (x : Audit σ α)
    (y : Audit τ α') : Prop :=
  ∀ s t, Ends strict E R (x s).1 (y t).1

namespace Alike

variable {strict : Prop} {E E' : Stop → Stop → Prop} {R R' : α → α' → Prop} {S : β → β' → Prop}
variable {x : Audit σ α} {y : Audit τ α'} {f : α → Audit σ β} {g : α' → Audit τ β'}

theorem pure {a : α} {a' : α'} (h : R a a') :
    Alike strict E R (pure a : Audit σ α) (pure a' : Audit τ α') :=
  fun _ _ => .done h

theorem stop {e e' : Stop} (h : E e e') :
    Alike strict E R (Audit.stop e : Audit σ α) (Audit.stop e' : Audit τ α') :=
  fun _ _ => .stopped h

theorem bind (hx : Alike strict E R x y) (hf : ∀ a a', R a a' → Alike strict E S (f a) (g a')) :
    Alike strict E S (x >>= f) (y >>= g) := by
  intro s t
  have h := hx s t
  rw [bind_apply, bind_apply]
  generalize x s = p, y t = q at h
  rcases p with ⟨r, s⟩
  rcases q with ⟨r', t⟩
  cases h
  case done a a' h => exact hf a a' h s t
  case stopped h => exact .stopped h
  case left h => exact .left h
  case right h => exact .right h

theorem mono (hx : Alike strict E R x y) (he : ∀ e e', E e e' → E' e e')
    (hr : ∀ a a', R a a' → R' a a') : Alike strict E' R' x y :=
  fun s t => (hx s t).mono he hr

-- Where nothing is known of the hosts, what parts record can still make their results alike.
theorem of_records {P P' : List Event → Except Stop α → Prop} (hs : ¬strict)
    {x : Audit σ α} {y : Audit τ α} {R : α → α → Prop} (hx : x.Records P) (hy : y.Records P')
    (h : ∀ events events' a a', P events (.ok a) → P' events' (.ok a') → R a a') :
    Alike strict E R x y := by
  intro s t
  have ⟨_, _, hp⟩ := hx s
  have ⟨_, _, hp'⟩ := hy t
  rcases hr : (x s).1 with e | a <;> rcases hr' : (y t).1 with e' | a' <;> rw [hr] at hp
  case ok.ok => exact .done (h _ _ _ _ hp (hr' ▸ hp'))
  all_goals first | exact .left hs | exact .right hs

end Alike
end Audit

-- What comes of two invocations is the same but for the names of two directories.
inductive RunsAlike (b b' : Path) (table : SignatureTable) :
    Except ToolFailure ToolRun → Except ToolFailure ToolRun → Prop
  | ran {run run'} :
    ToolRun.Renamed b b' table run run' → RunsAlike b b' table (.ok run) (.ok run')
  | failed {f f'} : ToolFailure.Renamed b b' f f' → RunsAlike b b' table (.error f) (.error f')

-- Two hosts answer an invocation of each alike, in all of their states.
structure Host.AnswerAlike (b b' : Path) (table : SignatureTable) (h : Host σ) (h' : Host τ)
    (i i' : Invocation) : Prop where
  tool   : i.tool = i'.tool
  answer : ∀ s t, Answer.Renamed b b' (table.signaturesFor i.tool) (h.invoke i s).1
    (h'.invoke i' t).1

theorem Audit.Alike.invoke {strict : Prop} {b b' : Path} {table : SignatureTable} {h : Host σ}
    {h' : Host τ} {i i' : Invocation} (hi : h.AnswerAlike b b' table h' i i') :
    Alike strict (Stop.Renamed b b') (RunsAlike b b' table) (Audit.invoke h i)
      (Audit.invoke h' i') := by
  intro s t
  have hr := hi.answer s.host t.host
  rw [Audit.invoke, Audit.invoke]
  generalize h.invoke i s.host = p, h'.invoke i' t.host = q at hr
  rcases p with ⟨answer, host⟩
  rcases q with ⟨answer', host'⟩
  cases hr
  case ran hr => exact .done <| .ran <| hr.toRun hi.tool
  case failed hf => exact .done <| .failed hf
  case broke hm => exact .stopped <| .breakdown hm

theorem Audit.Alike.isAvailable {strict : Prop} {E : Stop → Stop → Prop} {h : Host σ}
    {h' : Host τ} {program : String}
    (hv : ∀ s t, (h.isAvailable program s).1 = (h'.isAvailable program t).1) :
    Alike strict E (· = ·) (Audit.isAvailable h program) (Audit.isAvailable h' program) :=
  fun s t => .done (hv s.host t.host)

-- One check of a plan. A check that asks nothing of the host is idle.
inductive Check where
  | idle
  | compile (number : Nat) (subject : Subject)
  | sanitize (number : Nat) (subject : Subject) (tool : Tool)
  | analyze (analyzer : String) (subject : Subject)
  deriving DecidableEq

-- What a check asks of the host, for any directory of the builds.
def Check.asks : Check → List (Auditor.Bench → Invocation)
  | .idle => []
  | .compile number s => [(·.building number s.artifact none)]
  | .sanitize number s tool =>
    [(·.building number s.artifact tool), (·.running number s.artifact tool)]
  | .analyze analyzer s => [(·.analyzing analyzer s.artifact)]

inductive Check.Asking : Check → (Auditor.Bench → Invocation) → Prop
  | compile (number s) : Asking (.compile number s) (·.building number s.artifact none)
  | build (number s tool) : Asking (.sanitize number s tool) (·.building number s.artifact tool)
  | run (number s tool) : Asking (.sanitize number s tool) (·.running number s.artifact tool)
  | analyze (analyzer s) : Asking (.analyze analyzer s) (·.analyzing analyzer s.artifact)

theorem Check.mem_asks {c : Check} {ask : Auditor.Bench → Invocation} :
    ask ∈ c.asks ↔ c.Asking ask := by
  constructor
  case mp =>
    intro ha
    cases c <;> simp only [asks, List.mem_cons, List.not_mem_nil, or_false] at ha
    case compile => exact ha ▸ .compile ..
    case sanitize =>
      rcases ha with rfl | rfl
      · exact .build ..
      · exact .run ..
    case analyze => exact ha ▸ .analyze ..
  case mpr =>
    intro ha
    cases ha <;> simp [asks]

-- The checks of a step, by the number of its first output.
def Step.checks (number : Nat) : Step → List Check
  | .compile s => [.compile number s]
  | .skipCompile _ | .review _ => [.idle]
  | .sanitize s tool => [.sanitize number s tool]
  | .analyze analyzer subjects => subjects.map (.analyze analyzer)

def stepsChecks : Nat → List Step → List Check
  | _, [] => []
  | number, step :: rest => step.checks number ++ stepsChecks (number + step.builds) rest

-- Two lists with one result each for every check.
inductive ResultsAlike (R : Check → CheckResult → CheckResult → Prop) :
    List Check → List CheckResult → List CheckResult → Prop
  | nil : ResultsAlike R [] [] []
  | cons {c r r' cs rs rs'} :
    R c r r' → ResultsAlike R cs rs rs' → ResultsAlike R (c :: cs) (r :: rs) (r' :: rs')

namespace ResultsAlike

variable {R : Check → CheckResult → CheckResult → Prop} {c : Check} {r r' : CheckResult}
variable {cs ds : List Check} {rs rs' ts ts' : List CheckResult}

theorem singleton (h : R c r r') : ResultsAlike R [c] [r] [r'] :=
  .cons h .nil

theorem append (h : ResultsAlike R cs rs rs') (ht : ResultsAlike R ds ts ts') :
    ResultsAlike R (cs ++ ds) (rs ++ ts) (rs' ++ ts') := by
  induction h
  case nil => exact ht
  case cons hr _ hi => exact .cons hr hi

theorem length_eq (h : ResultsAlike R cs rs rs') : rs.length = rs'.length := by
  induction h
  case nil => rfl
  case cons hi => rw [List.length_cons, List.length_cons, hi]

theorem getElem? {p : Nat} (h : ResultsAlike R cs rs rs') (hr : rs[p]? = some r)
    (hr' : rs'[p]? = some r') : ∃ c, cs[p]? = some c ∧ R c r r' := by
  induction h generalizing p
  case nil => cases hr
  case cons c _ _ _ _ _ ha _ hi =>
    cases p
    case zero =>
      cases hr
      cases hr'
      exact ⟨c, rfl, ha⟩
    case succ p => exact hi hr hr'

end ResultsAlike

namespace Auditor

variable {strict : Prop} {h : Host σ} {h' : Host τ}

theorem invokeCompiler_alike {b b' : Path} {table : SignatureTable} {i i' : Invocation}
    (hi : h.AnswerAlike b b' table h' i i') :
    Audit.Alike strict (Stop.Renamed b b') (ToolRun.Renamed b b' table) (invokeCompiler h i)
      (invokeCompiler h' i') := by
  refine (Audit.Alike.invoke hi).bind fun r r' hr => ?_
  cases hr
  case ran hr => exact .pure hr
  case failed hf =>
    refine .stop <| .failure ?_
    cases hf
    case notFound hp => exact .toolchainMissing hp
    case spawn hp hc => exact .tool <| .spawn hp hc
    case wait hp hc => exact .tool <| .wait hp hc

namespace Bench

-- The same bench with another directory.
def moved (b : Bench) (build : Path) : Bench :=
  { b with build }

variable {b : Bench} {build : Path} {number : Nat} {s : Subject} {tool : Tool}

variable (b build h h') in
-- The hosts answer alike to what two benches ask.
def AnswerAlike (ask : Bench → Invocation) : Prop :=
  h.AnswerAlike b.build build b.auditor.signatures h' (ask b) (ask (b.moved build))

variable (b build h h' strict) in
-- The parts of two validations end alike.
def PartsAlike (R : α → α' → Prop) (x : Bench → Audit σ α) (y : Bench → Audit τ α') : Prop :=
  Audit.Alike strict (Stop.Renamed b.build build) R (x b) (y (b.moved build))

theorem verdict_renamed {run run' : ToolRun}
    (hr : ToolRun.Renamed b.build build b.auditor.signatures run run') :
    Verdict.Renamed b.build build (b.classifier.classify run)
      ((b.moved build).classifier.classify run') :=
  b.classifier.classify_renamed hr

theorem compile_alike
    (hi : b.AnswerAlike h h' build (·.building number s.artifact none)) :
    b.PartsAlike strict build (CheckResult.Renamed b.build build) (·.compile h number s)
      (·.compile h' number s) := by
  refine (invokeCompiler_alike hi).bind fun run run' hr => .pure ?_
  exact (s.expected.judge_renamed (verdict_renamed hr)).named _

inductive RunsEnd.Renamed (b b' : Path) : RunsEnd → RunsEnd → Prop
  | unstartable {f f'} :
    ToolFailure.Renamed b b' f f' → Renamed b b' (.unstartable f) (.unstartable f')
  | verdict {verdict verdict'} (attempt) :
    Verdict.Renamed b b' verdict verdict' →
    Renamed b b' (.verdict verdict attempt) (.verdict verdict' attempt)

theorem isDefect_eq {b b' : Path} {verdict verdict' : Verdict}
    (hv : Verdict.Renamed b b' verdict verdict') : isDefect verdict = isDefect verdict' := by
  cases hv <;> rfl

theorem runUntil_alike {i i' : Invocation} (attempt left : Nat)
    (hi : h.AnswerAlike b.build build b.auditor.signatures h' i i') :
    b.PartsAlike strict build (RunsEnd.Renamed b.build build) (·.runUntil h i attempt left)
      (·.runUntil h' i' attempt left) := by
  induction left generalizing attempt <;> rw [PartsAlike, runUntil, runUntil]
  case zero =>
    refine (Audit.Alike.invoke hi).bind fun r r' hr => ?_
    cases hr
    case ran hr => exact .pure <| .verdict attempt <| verdict_renamed hr
    case failed hf => exact .pure <| .unstartable hf
  case succ left hl =>
    refine (Audit.Alike.invoke hi).bind fun r r' hr => ?_
    cases hr
    case ran run run' hr =>
      have hv := verdict_renamed hr
      have hd : (isDefect (b.classifier.classify run) || run.timedOut) =
          (isDefect ((b.moved build).classifier.classify run') || run'.timedOut) := by
        rw [isDefect_eq hv, hr.timedOut]
      dsimp only
      rw [← hd]
      split
      case isTrue => exact .pure <| .verdict attempt hv
      case isFalse => exact hl (attempt + 1)
    case failed hf => exact .pure <| .unstartable hf

theorem runResult_renamed {b b' : Path} {e e' : RunsEnd} (expected : Expected) (attempts : Nat)
    (he : RunsEnd.Renamed b b' e e') :
    Judgement.Renamed b b' (runResult tool expected attempts e)
      (runResult tool expected attempts e') := by
  cases he
  case unstartable hf => exact ⟨rfl, .append (.same _) hf.message⟩
  case verdict hv =>
    have hj := expected.judge_renamed hv
    exact ⟨hj.outcome, .append hj.detail (.same _)⟩

theorem buildResult_renamed {b b' : Path} {verdict verdict' : Verdict}
    (hv : Verdict.Renamed b b' verdict verdict') :
    Judgement.Renamed b b' (buildResult tool verdict) (buildResult tool verdict') := by
  cases hv
  case same => exact .refl _
  case compileFailed hl => exact ⟨rfl, .append (.same _) (.append (.same _) hl)⟩

theorem sanitize_alike
    (hb : b.AnswerAlike h h' build (·.building number s.artifact tool))
    (hr : b.AnswerAlike h h' build (·.running number s.artifact tool)) :
    b.PartsAlike strict build (CheckResult.Renamed b.build build) (·.sanitize h number s tool)
      (·.sanitize h' number s tool) := by
  refine (invokeCompiler_alike hb).bind fun run run' hc => ?_
  have hv := verdict_renamed hc
  generalize b.classifier.classify run = verdict,
    (b.moved build).classifier.classify run' = verdict' at hv
  dsimp only
  cases hv
  case same =>
    split
    case h_1 =>
      refine (runUntil_alike 1 _ hr).bind fun e e' he => .pure ?_
      exact (runResult_renamed s.expected _ he).named _
    case h_2 => exact .pure (.refl _)
  case compileFailed code line line' hl =>
    exact .pure <| (buildResult_renamed <| .compileFailed code hl).named _

theorem analyzeOne_alike (analyzer : String) (available : Bool)
    (hi : b.AnswerAlike h h' build (·.analyzing analyzer s.artifact)) :
    b.PartsAlike strict build (CheckResult.Renamed b.build build)
      (·.analyzeOne h analyzer available s) (·.analyzeOne h' analyzer available s) := by
  cases available
  case false => exact .pure (.refl _)
  case true =>
    refine (Audit.Alike.invoke hi).bind fun r r' hr => ?_
    cases hr
    case ran hr => exact .pure <| (s.expected.judge_renamed (verdict_renamed hr)).named _
    case failed hf =>
      cases hf
      case notFound => exact .pure (.refl _)
      case spawn hp _ => exact .pure ⟨rfl, rfl, .append (.append (.same _) hp) (.same _)⟩
      case wait hp _ => exact .pure ⟨rfl, rfl, .append (.append (.same _) hp) (.same _)⟩

theorem building_renamed (b : Bench) (build : Path) (number : Nat) (a : Artifact)
    (sanitizer : Option Tool) :
    Invocation.Renamed b.build build (b.building number a sanitizer)
      ((b.moved build).building number a sanitizer) := by
  let i : Invocation := (Invocation.start .compiler b.config.compiler
    (Toolchain.millis b.config.compileTimeoutSecs)).addArgs
      (["-std=" ++ b.config.std] ++ b.config.extraFlags ++ Toolchain.instrumentation sanitizer ++
        ["-pthread", a.path.text, "-o"])
  have hi (build : Path) : (b.moved build).building number a sanitizer =
      i.addArgs [(outputPath build number (sanitizer.getD .compiler) a).text] := by
    simp [i, building, moved, config, Toolchain.compile, Invocation.addArgs]
  exact hi build ▸ hi b.build ▸ .output i (head?_outputName_ne number _ a)

theorem running_renamed (b : Bench) (build : Path) (number : Nat) (a : Artifact) (tool : Tool) :
    Invocation.Renamed b.build build (b.running number a tool)
      ((b.moved build).running number a tool) := by
  have hi (build : Path) : (b.moved build).running number a tool =
      { b.running number a tool with
        program := (outputPath build number tool a).text, workingDir := some build } := by
    simp only [running, Toolchain.run]
    split <;> rfl
  exact hi build ▸ hi b.build ▸ .program _ (head?_outputName_ne number tool a)

-- An analyzer reads the source and knows of no directory.
theorem analyzing_renamed (b : Bench) (build : Path) (analyzer : String) (a : Artifact) :
    Invocation.Renamed b.build build (b.analyzing analyzer a)
      ((b.moved build).analyzing analyzer a) :=
  .same _

theorem ask_renamed (b : Bench) (build : Path) {c : Check} {ask : Bench → Invocation}
    (ha : ask ∈ c.asks) : Invocation.Renamed b.build build (ask b) (ask (b.moved build)) := by
  cases Check.mem_asks.1 ha
  case compile => exact building_renamed ..
  case build => exact building_renamed ..
  case run => exact running_renamed ..
  case analyze => exact analyzing_renamed ..

-- The version of the compiler is no part of what a check asks.
theorem ask_of_major {v : Auditor} {c : Check} {ask : Bench → Invocation} (ha : ask ∈ c.asks)
    (major : Option UInt32) : ask ⟨v, major, build⟩ = ask ⟨v, none, build⟩ := by
  cases Check.mem_asks.1 ha <;> rfl

variable (b build h h') in
-- The hosts answer alike to all that a check asks.
def AgreeOn (c : Check) : Prop :=
  ∀ ask ∈ c.asks, b.AnswerAlike h h' build ask

variable (b build h h') in
-- What can be said of the results of a check: they have one name, and if the hosts agree on the
-- check there is no other difference than the names of the directories.
structure CheckAlike (c : Check) (r r' : CheckResult) : Prop where
  name    : r.name = r'.name
  renamed : b.AgreeOn h h' build c → CheckResult.Renamed b.build build r r'

-- A check on which the hosts do not agree has at least a name.
theorem PartsAlike.of_check {x : Bench → Audit σ CheckResult} {y : Bench → Audit τ CheckResult}
    {P P' : List Event → Except Stop CheckResult → Prop} {c : Check} {name : String}
    (hs : strict → b.AgreeOn h h' build c)
    (ha : b.AgreeOn h h' build c →
      b.PartsAlike strict build (CheckResult.Renamed b.build build) x y)
    (hx : (x b).Records P) (hy : (y (b.moved build)).Records P')
    (hn : ∀ events r, P events (.ok r) → r.name = name)
    (hn' : ∀ events r, P' events (.ok r) → r.name = name) :
    b.PartsAlike strict build (b.CheckAlike h h' build c) x y := by
  by_cases hc : b.AgreeOn h h' build c
  case pos => exact (ha hc).mono (fun _ _ => id) fun _ _ hr => ⟨hr.name, fun _ => hr⟩
  case neg =>
    refine .of_records (mt hs hc) hx hy fun _ _ r r' hr hr' => ?_
    exact ⟨(hn _ r hr).trans (hn' _ r' hr').symm, fun ha => absurd ha hc⟩

theorem compile_checkAlike (hs : strict → ∀ c, b.AgreeOn h h' build c) :
    b.PartsAlike strict build (b.CheckAlike h h' build (.compile number s)) (·.compile h number s)
      (·.compile h' number s) :=
  .of_check (hs · _) (fun ha => compile_alike <| ha _ (Check.mem_asks.2 (.compile ..)))
    (b.compile_records h number s) ((b.moved build).compile_records h' number s)
    (fun _ _ => CompileRecords.name_eq b) fun _ _ => CompileRecords.name_eq _

theorem sanitize_checkAlike (hs : strict → ∀ c, b.AgreeOn h h' build c) :
    b.PartsAlike strict build (b.CheckAlike h h' build (.sanitize number s tool))
      (·.sanitize h number s tool) (·.sanitize h' number s tool) :=
  .of_check (hs · _)
    (fun ha => sanitize_alike (ha _ (Check.mem_asks.2 (.build ..)))
      (ha _ (Check.mem_asks.2 (.run ..))))
    (b.sanitize_records h number s tool) ((b.moved build).sanitize_records h' number s tool)
    (fun _ _ => SanitizeRecords.name_eq b) fun _ _ => SanitizeRecords.name_eq _

theorem analyzeOne_checkAlike (analyzer : String) (available : Bool)
    (hs : strict → ∀ c, b.AgreeOn h h' build c) :
    b.PartsAlike strict build (b.CheckAlike h h' build (.analyze analyzer s))
      (·.analyzeOne h analyzer available s) (·.analyzeOne h' analyzer available s) :=
  .of_check (hs · _)
    (fun ha => analyzeOne_alike analyzer available <| ha _ (Check.mem_asks.2 (.analyze ..)))
    (b.analyzeOne_records h analyzer available s)
    ((b.moved build).analyzeOne_records h' analyzer available s)
    (fun _ _ => AnalyzeRecords.name_eq b) fun _ _ => AnalyzeRecords.name_eq _

theorem analyzeEach_alike (analyzer : String) (available : Bool) {subjects : List Subject}
    (hs : strict → ∀ c, b.AgreeOn h h' build c) :
    b.PartsAlike strict build
      (ResultsAlike (b.CheckAlike h h' build) (subjects.map (.analyze analyzer)))
      (·.analyzeEach h analyzer available subjects)
      (·.analyzeEach h' analyzer available subjects) := by
  induction subjects
  case nil => exact .pure .nil
  case cons s rest hi =>
    refine (analyzeOne_checkAlike analyzer available hs).bind fun r r' hr => ?_
    exact hi.bind fun rs rs' hrs => .pure (.cons hr hrs)

theorem runStep_alike {step : Step}
    (hv : ∀ program s t, (h.isAvailable program s).1 = (h'.isAvailable program t).1)
    (hs : strict → ∀ c, b.AgreeOn h h' build c) :
    b.PartsAlike strict build (ResultsAlike (b.CheckAlike h h' build) (step.checks number))
      (·.runStep h number step) (·.runStep h' number step) := by
  cases step
  case compile s =>
    exact (compile_checkAlike hs).bind fun r r' hr => .pure (.singleton hr)
  case skipCompile a => exact .pure (.singleton ⟨rfl, fun _ => .refl _⟩)
  case sanitize s tool =>
    exact (sanitize_checkAlike hs).bind fun r r' hr => .pure (.singleton hr)
  case review a => exact .pure (.singleton ⟨rfl, fun _ => .refl _⟩)
  case analyze analyzer subjects =>
    refine (Audit.Alike.isAvailable fun s t => hv analyzer s t).bind ?_
    rintro available _ rfl
    exact analyzeEach_alike analyzer available hs

theorem runSteps_alike (number : Nat) (steps : List Step)
    (hv : ∀ program s t, (h.isAvailable program s).1 = (h'.isAvailable program t).1)
    (hs : strict → ∀ c, b.AgreeOn h h' build c) :
    b.PartsAlike strict build
      (ResultsAlike (b.CheckAlike h h' build) (stepsChecks number steps))
      (·.runSteps h number steps) (·.runSteps h' number steps) := by
  induction steps generalizing number
  case nil => exact .pure .nil
  case cons step rest hi =>
    refine (runStep_alike hv hs).bind fun r r' hr => ?_
    exact (hi _).bind fun rs rs' hrs => .pure (hr.append hrs)

end Bench

end Auditor

variable (names : Path → Prop)

-- Stops that differ in the names of two directories only. `names` holds of the names that
-- directories for builds may have.
def Stop.Alike (e e' : Stop) : Prop :=
  ∃ b b', names b ∧ names b' ∧ Stop.Renamed b b' e e'

-- What comes of making two directories for builds.
inductive OpeningsAlike (strict : Prop) :
    Except (List String) Path → Except (List String) Path → Prop
  | opened {b b'} : names b → names b' → OpeningsAlike strict (.ok b) (.ok b')
  | none {b b' causes causes'} :
    names b → names b' → List.Forall₂ (Renamed b b') causes causes' →
    OpeningsAlike strict (.error causes) (.error causes')
  | left {causes r'} : ¬strict → OpeningsAlike strict (.error causes) r'
  | right {r causes'} : ¬strict → OpeningsAlike strict r (.error causes')

-- What a host answers depends on the question only, but for the names of the directories for builds
-- that it makes. Where the answers show such names, no signature of the table tells them apart
-- (`ReadAlike`); a signature that matched a name chosen at random would make answers of its own.
structure Host.Steady (table : SignatureTable) (names : Path → Prop) (h : Host σ) : Prop where
  nonempty    : ∃ b, names b
  isAvailable : ∀ program s t, (h.isAvailable program s).1 = (h.isAvailable program t).1
  invoke      : ∀ b b', names b → names b' → ∀ i i', Invocation.Renamed b b' i i' →
    ∀ s t, Answer.Renamed b b' (table.signaturesFor i.tool) (h.invoke i s).1 (h.invoke i' t).1
  openBuild   : ∀ s t, OpeningsAlike names True (h.openBuild s).1 (h.openBuild t).1

-- The answers do not even show the names.
structure Host.Blind (names : Path → Prop) (h : Host σ) : Prop where
  nonempty    : ∃ b, names b
  isAvailable : ∀ program s t, (h.isAvailable program s).1 = (h.isAvailable program t).1
  invoke      : ∀ b b', names b → names b' → ∀ i i', Invocation.Renamed b b' i i' →
    ∀ s t, (h.invoke i s).1 = (h.invoke i' t).1
  openBuild   : ∀ s t, OpeningsAlike names True (h.openBuild s).1 (h.openBuild t).1

-- Then it does not matter what the signatures are.
theorem Host.Blind.steady {names : Path → Prop} {h : Host σ} (hb : h.Blind names)
    (table : SignatureTable) : h.Steady table names where
  nonempty                   := hb.nonempty
  isAvailable                := hb.isAvailable
  invoke b b' hn hn' _ _ hr s t := hb.invoke b b' hn hn' _ _ hr s t ▸ .refl ..
  openBuild                  := hb.openBuild

variable {names} {strict : Prop} {h : Host σ} {h' : Host τ}

-- The directories are the ones that are opened here.
theorem withBuild_ends {R : Path → Path → α → α' → Prop} {part : Path → Audit σ α}
    {part' : Path → Audit τ α'} {P : Path → List Event → Except Stop α → Prop}
    {P' : Path → List Event → Except Stop α' → Prop} {s : Session σ} {t : Session τ}
    (ho : OpeningsAlike names strict (h.openBuild s.host).1 (h'.openBuild t.host).1)
    (hx : ∀ b, (part b).Records (P b)) (hx' : ∀ b, (part' b).Records (P' b))
    (hp : ∀ b b', names b → names b' →
      Audit.Alike strict (Stop.Renamed b b') (R b b') (part b) (part' b')) :
    Ends strict (Stop.Alike names)
      (fun a a' => ∃ b b', names b ∧ names b' ∧
        .openedBuild b ∈ (Audit.withBuild h part s).2.journal ∧
        .openedBuild b' ∈ (Audit.withBuild h' part' t).2.journal ∧ R b b' a a')
      (Audit.withBuild h part s).1 (Audit.withBuild h' part' t).1 := by
  rw [Audit.withBuild, Audit.withBuild]
  generalize h.openBuild s.host = p, h'.openBuild t.host = q at ho
  rcases p with ⟨r, host⟩
  rcases q with ⟨r', host'⟩
  cases ho
  case opened b b' hb hb' =>
    obtain ⟨_, hc, _⟩ := hx b (s.record host (.openedBuild b))
    obtain ⟨_, hc', _⟩ := hx' b' (t.record host' (.openedBuild b'))
    refine (hp b b' hb hb' _ _).mono ?_ ?_
    case refine_1 => exact fun e e' he => ⟨b, b', hb, hb', he⟩
    case refine_2 =>
      refine fun a a' ha => ⟨b, b', hb, hb', ?_, ?_, ha⟩
      · exact List.mem_append_left _ <| hc.mem_journal <| s.mem_record ..
      · exact List.mem_append_left _ <| hc'.mem_journal <| t.mem_record ..
  case none b b' _ _ hb hb' hc =>
    exact .stopped ⟨b, b', hb, hb', .failure (.buildDirectory hc)⟩
  case left hs => exact .left hs
  case right hs => exact .right hs

-- What is known of the compiler is what it tells, whenever it is asked.
def Session.Knows (v : Auditor) (h : Host σ) (s : Session σ) : Prop :=
  ∀ major, s.compiler = some major → ∀ t, (v.askVersion h t).1 = .ok major

theorem Session.knows_initial (v : Auditor) (h : Host σ) (host : σ) :
    (Session.initial host).Knows v h :=
  nofun

namespace Auditor

-- Two hosts agree so far that validations on them can be compared.
structure HostsAgree (strict : Prop) (v : Auditor) (names : Path → Prop) (h : Host σ)
    (h' : Host τ) : Prop where
  nonempty    : ∃ b, names b
  isAvailable : ∀ program s t, (h.isAvailable program s).1 = (h'.isAvailable program t).1
  version     : ∀ b, names b → h.AnswerAlike b b v.signatures h' (Toolchain.version v.config)
    (Toolchain.version v.config)
  openBuild   : ∀ s t, OpeningsAlike names strict (h.openBuild s).1 (h'.openBuild t).1
  checks      : strict → ∀ major b b', names b → names b' → ∀ c,
    (Bench.mk v major b).AgreeOn h h' b' c

variable {v : Auditor}

theorem askVersion_alike (ha : HostsAgree strict v names h h') :
    Audit.Alike strict (Stop.Alike names) (· = ·) (v.askVersion h) (v.askVersion h') := by
  have ⟨b, hb⟩ := ha.nonempty
  refine (Audit.Alike.isAvailable fun s t => ha.isAvailable _ s t).bind ?_
  rintro available _ rfl
  cases available
  case false => exact .stop ⟨b, b, hb, hb, .failure (.same _)⟩
  case true =>
    refine Audit.Alike.bind ((invokeCompiler_alike (ha.version b hb)).mono ?_ fun _ _ => id) ?_
    case refine_1 => exact fun e e' he => ⟨b, b, hb, hb, he⟩
    case refine_2 =>
      refine fun run run' hr => .pure ?_
      rw [hr.output.renamed.eq]

theorem compilerMajor_of_knows {s : Session σ} (hk : s.Knows v h) :
    (v.compilerMajor h s).1 = (v.askVersion h s).1 := by
  rcases s with ⟨host, _ | major, journal⟩
  case some => exact (hk major rfl _).symm
  case none =>
    rw [compilerMajor]
    rcases v.askVersion h ⟨host, none, journal⟩ with ⟨_ | _, _⟩ <;> rfl

theorem buildResults_ends {steps : List Step} {s : Session σ} {t : Session τ}
    (ha : HostsAgree strict v names h h') (hk : s.Knows v h)
    (hk' : t.Knows v h') :
    Ends strict (Stop.Alike names)
      (fun rs rs' => ∃ b b', names b ∧ names b' ∧
        .openedBuild b ∈ (v.buildResults h steps s).2.journal ∧
        .openedBuild b' ∈ (v.buildResults h' steps t).2.journal ∧ ∃ major,
        ResultsAlike ((Bench.mk v major b).CheckAlike h h' b') (stepsChecks 1 steps) rs rs')
      (v.buildResults h steps s).1 (v.buildResults h' steps t).1 := by
  have hm := askVersion_alike ha s t
  rw [← compilerMajor_of_knows hk, ← compilerMajor_of_knows hk'] at hm
  rw [buildResults, buildResults, Audit.bind_apply, Audit.bind_apply]
  generalize v.compilerMajor h s = p, v.compilerMajor h' t = q at hm
  rcases p with ⟨r, s⟩
  rcases q with ⟨r', t⟩
  cases hm
  case done major _ hm =>
    cases hm
    refine withBuild_ends (ha.openBuild _ _) (fun _ => Bench.runSteps_records _ h 1 steps)
      (fun _ => Bench.runSteps_records _ h' 1 steps) fun b b' hb hb' => ?_
    have hr := Bench.runSteps_alike (b := ⟨v, major, b⟩) 1 steps ha.isAvailable fun hp =>
      ha.checks hp major b b' hb hb'
    exact hr.mono (fun _ _ => id) fun rs rs' hr => ⟨major, hr⟩
  case stopped he => exact .stopped he
  case left hs => exact .left hs
  case right hs => exact .right hs

-- The checks of a pattern, one for each result.
def checks (v : Auditor) (options : Options) (module : String) (sources : List Artifact) :
    List Check :=
  [.idle, .idle]
    ++ (if options.skipBuild then [] else stepsChecks 1 (v.steps options.mode module sources))
    ++ [.idle]

-- Two scorecards of a pattern, from validations with directories of their own.
structure CardsAlike (b : Bench) (h : Host σ) (h' : Host τ) (build : Path) (checks : List Check)
    (card card' : Scorecard) : Prop where
  patternName : card.patternName = card'.patternName
  module      : card.module = card'.module
  directory   : card.directory = card'.directory
  results     : ResultsAlike (b.CheckAlike h h' build) checks card.results card'.results

theorem scorecard_alike {b : Bench} {build : Path} {files : FileTree} {directory : Path}
    {artifacts : Artifacts} {checks : List Check} {built built' : List CheckResult}
    (hr : ResultsAlike (b.CheckAlike h h' build) checks built built') :
    CardsAlike b h h' build ([.idle, .idle] ++ checks ++ [.idle])
      (scorecard files directory artifacts built) (scorecard files directory artifacts built') := by
  have hi (r : CheckResult) : b.CheckAlike h h' build .idle r r := ⟨rfl, fun _ => .refl _⟩
  exact ⟨rfl, rfl, rfl, .append (.append (.cons (hi _) (.singleton (hi _))) hr) (.singleton (hi _))⟩

theorem validate_ends {files : FileTree} {directory : Path} {options : Options} {s : Session σ}
    {t : Session τ} (ha : HostsAgree strict v names h h') (hk : s.Knows v h) (hk' : t.Knows v h') :
    Ends strict (Stop.Alike names)
      (fun card card' => ∃ artifacts b b' major,
        Artifacts.discover files directory = .ok artifacts ∧ names b ∧ names b' ∧
        (options.skipBuild = false →
          .openedBuild b ∈ (v.validate files h directory options s).2.journal ∧
          .openedBuild b' ∈ (v.validate files h' directory options t).2.journal) ∧
        CardsAlike ⟨v, major, b⟩ h h' b'
          (v.checks options (Course.moduleName directory) artifacts.sources) card card')
      (v.validate files h directory options s).1 (v.validate files h' directory options t).1 := by
  obtain ⟨b, hb⟩ := ha.nonempty
  rcases hd : Artifacts.discover files directory with f | artifacts
  case error =>
    rw [validate_of_undiscovered hd, validate_of_undiscovered hd]
    exact .stopped ⟨b, b, hb, hb, .failure (.same _)⟩
  case ok =>
    rcases ho : options.skipBuild
    case true =>
      rw [validate_of_skipBuild hd ho, validate_of_skipBuild hd ho]
      refine .done ⟨artifacts, b, b, none, rfl, hb, hb, fun hs => Bool.noConfusion hs, ?_⟩
      rw [checks, ho]
      exact scorecard_alike .nil
    case false =>
      rw [validate_of_discover hd ho, validate_of_discover hd ho]
      refine (buildResults_ends ha hk hk').map ?_
      rintro rs rs' ⟨b, b', hb, hb', hj, hj', major, hr⟩
      refine ⟨artifacts, b, b', major, rfl, hb, hb', fun _ => ⟨hj, hj'⟩, ?_⟩
      rw [checks, ho]
      exact scorecard_alike hr

end Auditor
end CourseAudit
