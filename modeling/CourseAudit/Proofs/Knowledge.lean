import CourseAudit.Proofs.Products
import CourseAudit.Proofs.Stopping

/-!
What an auditor knows of its compiler. Over any number of validations it asks for the version until
it is told, each time before anything else, and from then on it never asks again. Main statement:
`version_learned_once`.
-/
namespace CourseAudit

variable {σ : Type}

-- The answer to the question for the version of the compiler.
def Event.versionAnswer? : Event → Option Answer
  | .invoked i answer => if i.tool = .compiler ∧ i.args = ["--version"] then some answer else none
  | _ => none

-- All answers to that question, in the order of the events.
def versionAnswers (events : List Event) : List Answer :=
  events.filterMap Event.versionAnswer?

theorem versionAnswers_append (events later : List Event) :
    versionAnswers (events ++ later) = versionAnswers events ++ versionAnswers later :=
  List.filterMap_append

theorem versionAnswers_eq_nil {events : List Event} (h : ∀ e ∈ events, e.versionAnswer? = none) :
    versionAnswers events = [] :=
  List.filterMap_eq_nil_iff.2 h

theorem Event.versionAnswer?_of_args_ne {i : Invocation} (h : i.args ≠ ["--version"])
    (answer : Answer) : (Event.invoked i answer).versionAnswer? = none :=
  if_neg fun hi => h hi.2

theorem Event.versionAnswer?_of_tool_ne {i : Invocation} (h : i.tool ≠ .compiler)
    (answer : Answer) : (Event.invoked i answer).versionAnswer? = none :=
  if_neg fun hi => h hi.1

-- What the answers of the compiler leave known: nothing as long as none of them is a reply. After
-- the first reply there are no more answers.
inductive Learned : List Answer → Option (Option UInt32) → Prop
  | nothing {answers} : (∀ reply, .ran reply ∉ answers) → Learned answers none
  | told {answers} (reply) :
    (∀ reply, .ran reply ∉ answers) →
    Learned (answers ++ [.ran reply]) (some (CompilerVersion.parse? reply.output))

namespace Learned

variable {answers : List Answer} {known : Option (Option UInt32)} {reply : Reply}

theorem of_forall_not_mem (h : Learned answers known) (hn : ∀ reply, .ran reply ∉ answers) :
    known = none := by
  cases h
  case nothing => rfl
  case told reply _ => exact absurd (List.mem_append_right _ List.mem_cons_self) (hn reply)

theorem of_mem (h : Learned answers known) (hr : .ran reply ∈ answers) :
    known = some (CompilerVersion.parse? reply.output) := by
  cases h
  case nothing hn => exact absurd hr (hn reply)
  case told hn =>
    rcases List.mem_append.1 hr with hr | hr
    case inl => exact absurd hr (hn reply)
    case inr =>
      cases List.mem_singleton.1 hr
      rfl

-- A reply has no other reply before it, and no answer at all behind it.
theorem of_append_cons {before after : List Answer}
    (h : Learned (before ++ .ran reply :: after) known) :
    (∀ reply, .ran reply ∉ before) ∧ after = [] := by
  generalize hj : before ++ .ran reply :: after = answers at h
  cases h
  case nothing hn => exact absurd (hj ▸ List.mem_append_right _ List.mem_cons_self) (hn reply)
  case told hn =>
    rcases append_eq_append_cons hj.symm with ⟨there, rfl, -⟩ | ⟨here, rfl, he⟩
    case inl => exact absurd (List.mem_append_right _ List.mem_cons_self) (hn reply)
    case inr =>
      cases here
      case nil =>
        cases he
        rw [List.append_nil]
        exact ⟨hn, rfl⟩
      case cons => simp at he

end Learned

-- The compiler told its version at most once, and what is known of it is what it told.
structure Session.KnowsWhatWasTold (s : Session σ) : Prop where
  untold : (∀ reply, .ran reply ∉ versionAnswers s.journal) → s.compiler = none
  told   : ∀ reply, .ran reply ∈ versionAnswers s.journal →
    s.compiler = some (CompilerVersion.parse? reply.output)
  once   : ∀ before reply after, versionAnswers s.journal = before ++ .ran reply :: after →
    (∀ reply, .ran reply ∉ before) ∧ after = []

theorem Learned.knowsWhatWasTold {s : Session σ}
    (h : Learned (versionAnswers s.journal) s.compiler) : s.KnowsWhatWasTold where
  untold             := h.of_forall_not_mem
  told _             := h.of_mem
  once _ _ _ hj      := (hj ▸ h).of_append_cons

namespace Auditor
namespace Bench

variable {b : Bench} {number : Nat} {events : List Event}

theorem versionAnswer?_building (number : Nat) (a : Artifact) (sanitizer : Option Tool)
    (answer : Answer) :
    (Event.invoked (b.building number a sanitizer) answer).versionAnswer? = none :=
  Event.versionAnswer?_of_args_ne (b.args_building_ne_version number a sanitizer) answer

theorem versionAnswer?_running (number : Nat) (a : Artifact) (tool : Tool) (answer : Answer) :
    (Event.invoked (b.running number a tool) answer).versionAnswer? = none :=
  Event.versionAnswer?_of_args_ne (by simp [args_running]) answer

-- No check asks for the version.
theorem StepRecords.versionAnswer?_eq_none {step : Step} {r : Except Stop (List CheckResult)}
    (h : b.StepRecords number step events r) : ∀ e ∈ events, e.versionAnswer? = none := by
  have hc {s : Subject} {r : Except Stop CheckResult} (h : b.CompileRecords number s events r) :
      ∀ e ∈ events, e.versionAnswer? = none := by
    obtain ⟨answer, rfl⟩ := h.exists_eq
    exact List.forall_mem_singleton.2 (versionAnswer?_building ..)
  have hs {s : Subject} {tool : Tool} {r : Except Stop CheckResult}
      (h : b.SanitizeRecords number s tool events r) : ∀ e ∈ events, e.versionAnswer? = none := by
    obtain ⟨answer, runs, rfl, hr, -⟩ := h.exists_eq_cons
    refine List.forall_mem_cons.2 ⟨versionAnswer?_building .., fun e he => ?_⟩
    obtain ⟨answer, rfl⟩ := hr e he
    exact versionAnswer?_running ..
  cases h
  case compile h => exact hc h
  case compileStopped h => exact hc h
  case skipCompile => exact List.forall_mem_nil _
  case sanitize h => exact hs h
  case sanitizeStopped h => exact hs h
  case review => exact List.forall_mem_nil _
  case analyze analyzer subjects _ available h =>
    refine List.forall_mem_cons.2 ⟨rfl, h.forall_mem fun s _ _ _ h e he => ?_⟩
    obtain ⟨i, answer, rfl, hi⟩ := h.exists_analyzing e he
    exact Event.versionAnswer?_of_tool_ne (hi ▸ nofun) answer

theorem StepsRecord.versionAnswer?_eq_none {steps : List Step}
    {r : Except Stop (List CheckResult)} (h : b.StepsRecord number steps events r) :
    ∀ e ∈ events, e.versionAnswer? = none := by
  have hp (p) (_ : p ∈ Step.numbered number steps) (events r)
      (h : b.StepRecords p.1 p.2 events r) : ∀ e ∈ events, e.versionAnswer? = none :=
    h.versionAnswer?_eq_none
  cases r
  case error => exact Audit.InTurn.forall_mem h hp
  case ok =>
    obtain ⟨parts, h, -⟩ := h
    exact h.forall_mem hp

end Bench

variable {v : Auditor} {events : List Event} {known known' : Option (Option UInt32)}

theorem BuildResultsRecord.versionAnswers_eq_nil {major : Option UInt32} {steps : List Step}
    {r : Except Stop (List CheckResult)} (h : v.BuildResultsRecord major steps events r) :
    versionAnswers events = [] := by
  refine CourseAudit.versionAnswers_eq_nil ?_
  cases h
  case none => exact List.forall_mem_singleton.2 rfl
  case opened h =>
    exact List.forall_mem_append.2 ⟨List.forall_mem_cons.2 ⟨rfl, h.versionAnswer?_eq_none⟩,
      List.forall_mem_singleton.2 rfl⟩

-- How a validation begins when the version is not known: the compiler is looked for, and if it is
-- there, it is asked once. Only when it tells its version, the validation goes on.
inductive Asks (v : Auditor) : List Event → Option (Option UInt32) → Prop
  | missing : Asks v [.asked v.config.compiler false] none
  | unanswered (answer) :
    (∀ reply, answer ≠ .ran reply) →
    Asks v [.asked v.config.compiler true, .invoked (Toolchain.version v.config) answer] none
  | told (reply) {later} :
    versionAnswers later = [] →
    Asks v (.asked v.config.compiler true ::
      .invoked (Toolchain.version v.config) (.ran reply) :: later)
      (some (CompilerVersion.parse? reply.output))

theorem MajorRecords.asks_of_error {e : Stop} (h : v.MajorRecords known events known' (.error e)) :
    known = none ∧ v.Asks events known' := by
  cases h
  case failed h =>
    refine ⟨rfl, ?_⟩
    cases h
    case missing => exact .missing
    case stopped h =>
      cases h
      case failed f => exact .unanswered (.failed f) nofun
      case broke message => exact .unanswered (.broke message) nofun

theorem MajorRecords.cases_of_ok {major : Option UInt32} {later : List Event}
    (h : v.MajorRecords known events known' (.ok major)) (hl : versionAnswers later = []) :
    known' = some major ∧
      (known = some major ∧ events = [] ∨ known = none ∧ v.Asks (events ++ later) known') := by
  cases h
  case known => exact ⟨rfl, .inl ⟨rfl, rfl⟩⟩
  case learned h =>
    cases h
    case parsed reply => exact ⟨rfl, .inr ⟨rfl, .told reply hl⟩⟩

theorem Asks.learned {answers : List Answer} (h : v.Asks events known')
    (ha : ∀ reply, .ran reply ∉ answers) : Learned (answers ++ versionAnswers events) known' := by
  have hv (answer : Answer) (later : List Event) :
      versionAnswers (.asked v.config.compiler true ::
        .invoked (Toolchain.version v.config) answer :: later) = answer :: versionAnswers later :=
    rfl
  cases h
  case missing => exact .nothing (by simpa [versionAnswers, Event.versionAnswer?] using ha)
  case unanswered answer hn =>
    rw [hv]
    refine .nothing fun reply hr => ?_
    rcases List.mem_append.1 hr with hr | hr
    case inl => exact ha reply hr
    case inr => exact hn reply (List.mem_singleton.1 hr).symm
  case told reply later hl =>
    rw [hv, hl]
    exact .told reply ha

end Auditor

-- A validation that an auditor is asked for. The files may be others the next time.
structure Request where
  files : FileTree
  directory : Path
  options : Options

namespace Auditor

variable (v : Auditor) (h : Host σ)

def serve (r : Request) : Audit σ Scorecard :=
  v.validate r.files h r.directory r.options

-- The session after some requests, whatever came of them.
def sessionAfter (requests : List Request) (s : Session σ) : Session σ :=
  requests.foldl (fun s r => (v.serve h r s).2) s

-- What serving a request has to do with the version: what was known of it before, the exchanges,
-- what is known then, and the result. All runs are read by the version that is known.
structure Serves (r : Request) (known : Option (Option UInt32)) (events : List Event)
    (known' : Option (Option UInt32)) (result : Except Stop Scorecard) : Prop where
  idle   : ¬Builds r.files r.directory r.options → events = [] ∧ known' = known
  asking : Builds r.files r.directory r.options → known = none → v.Asks events known'
  silent : ∀ major, known = some major → versionAnswers events = [] ∧ known' = some major
  used   : ∀ artifacts major, Artifacts.discover r.files r.directory = .ok artifacts →
    r.options.skipBuild = false → known' = some major →
    ∃ before later built, events = before ++ later ∧
      v.BuildResultsRecord major
        (v.steps r.options.mode (Course.moduleName r.directory) artifacts.sources) later built ∧
      result = built.map (scorecard r.files r.directory artifacts)

variable {v h} {r : Request} {events : List Event} {known known' : Option (Option UInt32)}
variable {result : Except Stop Scorecard}

theorem serves_of_not_builds (hb : ¬Builds r.files r.directory r.options) :
    v.Serves r known [] known result where
  idle _           := ⟨rfl, rfl⟩
  asking hb'       := absurd hb' hb
  silent _ hk      := ⟨rfl, hk⟩
  used _ _ hd ho _ := absurd ⟨_, hd, ho⟩ hb

theorem MajorRecords.serves_of_ok {artifacts : Artifacts} {before later : List Event}
    {major : Option UInt32} {built : Except Stop (List CheckResult)}
    (hd : Artifacts.discover r.files r.directory = .ok artifacts)
    (ho : r.options.skipBuild = false) (hm : v.MajorRecords known before known' (.ok major))
    (hb : v.BuildResultsRecord major
      (v.steps r.options.mode (Course.moduleName r.directory) artifacts.sources) later built) :
    v.Serves r known (before ++ later) known'
      (built.map (scorecard r.files r.directory artifacts)) := by
  have hl := hb.versionAnswers_eq_nil
  obtain ⟨rfl, hk⟩ := hm.cases_of_ok hl
  refine ⟨fun hn => absurd ⟨artifacts, hd, ho⟩ hn, fun _ hn => ?_, ?_, ?_⟩
  case refine_1 =>
    rcases hk with ⟨rfl, -⟩ | ⟨-, ha⟩
    case inl => cases hn
    case inr => exact ha
  case refine_2 =>
    rintro major' rfl
    rcases hk with ⟨hk, rfl⟩ | ⟨⟨⟩, -⟩
    exact ⟨hl, hk.symm⟩
  case refine_3 =>
    rintro artifacts' _ hd' - ⟨⟩
    cases hd.symm.trans hd'
    exact ⟨before, later, built, rfl, hb, rfl⟩

theorem ValidateRecords.serves
    (h : v.ValidateRecords r.files r.directory r.options known events known' result) :
    v.Serves r known events known' result := by
  cases h
  case undiscovered hd =>
    refine serves_of_not_builds ?_
    rintro ⟨_, hd', -⟩
    cases hd.symm.trans hd'
  case skipped ho =>
    refine serves_of_not_builds ?_
    rintro ⟨_, -, ho'⟩
    cases ho.symm.trans ho'
  case noMajor artifacts e hd ho hm =>
    obtain ⟨rfl, ha⟩ := hm.asks_of_error
    cases hm
    exact ⟨fun hn => absurd ⟨artifacts, hd, ho⟩ hn, fun _ _ => ha, nofun, nofun⟩
  case stopped hd ho hs hm => exact hm.serves_of_ok hd ho hs
  case built hd ho hs hm => exact hm.serves_of_ok hd ho hs

theorem Serves.learned {answers : List Answer} (hs : v.Serves r known events known' result)
    (hl : Learned answers known) : Learned (answers ++ versionAnswers events) known' := by
  by_cases hb : Builds r.files r.directory r.options
  case neg =>
    obtain ⟨rfl, rfl⟩ := hs.idle hb
    rwa [versionAnswers, List.filterMap_nil, List.append_nil]
  case pos =>
    cases hl
    case nothing ha => exact (hs.asking hb rfl).learned ha
    case told answers reply ha =>
      obtain ⟨hv, rfl⟩ := hs.silent _ rfl
      rw [hv, List.append_nil]
      exact .told reply ha

variable (v h)

theorem serve_serves (r : Request) (s : Session σ) :
    ∃ events, (v.serve h r s).2.journal = s.journal ++ events ∧
      v.Serves r s.compiler events (v.serve h r s).2.compiler (v.serve h r s).1 := by
  obtain ⟨events, hj, hr⟩ := v.validate_records r.files h r.directory r.options s
  exact ⟨events, hj, hr.serves⟩

theorem sessionAfter_learned (requests : List Request) {s : Session σ}
    (hs : Learned (versionAnswers s.journal) s.compiler) :
    Learned (versionAnswers (v.sessionAfter h requests s).journal)
      (v.sessionAfter h requests s).compiler := by
  induction requests generalizing s
  case nil => exact hs
  case cons r rest hi =>
    obtain ⟨events, hj, hr⟩ := v.serve_serves h r s
    refine hi ?_
    rw [hj, versionAnswers_append]
    exact hr.learned hs

-- Once the version is known, it stays known, and it is not asked for again.
theorem sessionAfter_silent (requests : List Request) {s : Session σ} {major : Option UInt32}
    (hs : s.compiler = some major) :
    (v.sessionAfter h requests s).compiler = some major ∧
      ∃ events, (v.sessionAfter h requests s).journal = s.journal ++ events ∧
        versionAnswers events = [] := by
  induction requests generalizing s
  case nil => exact ⟨hs, [], (List.append_nil _).symm, rfl⟩
  case cons r rest hi =>
    obtain ⟨events, hj, hr⟩ := v.serve_serves h r s
    obtain ⟨hv, hk⟩ := hr.silent major hs
    obtain ⟨hk, later, hl, hv'⟩ := hi hk
    refine ⟨hk, events ++ later, ?_, ?_⟩
    · rw [← List.append_assoc, ← hj]
      exact hl
    · rw [versionAnswers_append, hv, hv', List.append_nil]

-- Whatever is asked of an auditor, in any order, and however it ends: what is known of the compiler
-- is what the compiler told, it told it once, and before that every validation that builds anything
-- asks first.
theorem version_learned_once (s : σ) (requests : List Request) (next : Request) :
    (v.sessionAfter h requests (.initial s)).KnowsWhatWasTold ∧
    (∃ events,
      (v.serve h next (v.sessionAfter h requests (.initial s))).2.journal =
        (v.sessionAfter h requests (.initial s)).journal ++ events ∧
      v.Serves next (v.sessionAfter h requests (.initial s)).compiler events
        (v.serve h next (v.sessionAfter h requests (.initial s))).2.compiler
        (v.serve h next (v.sessionAfter h requests (.initial s))).1) ∧
    ∀ later major, (v.sessionAfter h requests (.initial s)).compiler = some major →
      (v.sessionAfter h (requests ++ later) (.initial s)).compiler = some major ∧
      ∃ events, (v.sessionAfter h (requests ++ later) (.initial s)).journal =
        (v.sessionAfter h requests (.initial s)).journal ++ events ∧
      versionAnswers events = [] := by
  have hl : Learned (versionAnswers (Session.initial s).journal) (Session.initial s).compiler :=
    .nothing fun _ => List.not_mem_nil
  refine ⟨(v.sessionAfter_learned h requests hl).knowsWhatWasTold, v.serve_serves h next _,
    fun later major hs => ?_⟩
  have ha : v.sessionAfter h (requests ++ later) (.initial s) =
      v.sessionAfter h later (v.sessionAfter h requests (.initial s)) := List.foldl_append
  rw [ha]
  exact v.sessionAfter_silent h later hs

end Auditor

namespace Sample

-- A machine from which the compiler is missing at first. Then it cannot be started, and at last it
-- works.
def lateHost : Host Nat where
  isAvailable _ asked := (0 < asked, asked + 1)
  invoke i asked :=
    if asked < 3 then (.failed (.spawn i.program []), asked + 1)
    else (.ran ⟨some 0, "g++ (GCC) 13.2.0", false⟩, asked + 1)
  openBuild asked := (.ok (newBuild asked), asked)
  closeBuild _ asked := asked

def request : Request := ⟨files, directory, ⟨.quick, false⟩⟩

theorem serve_request (s : Session Nat) :
    auditor.serve lateHost request s =
      (auditor.buildResults lateHost
        (auditor.steps .quick (Course.moduleName directory) artifacts.sources) s).map
        (·.map (Auditor.scorecard files directory artifacts)) id :=
  Auditor.validate_of_discover discover_eq rfl

theorem versionAnswers_lateHost :
    versionAnswers
        (auditor.sessionAfter lateHost [request, request, request] (.initial 0)).journal =
      [.failed (.spawn "g++" []), .ran ⟨some 0, "g++ (GCC) 13.2.0", false⟩] := by
  simp only [Auditor.sessionAfter, List.foldl_cons, List.foldl_nil, serve_request]
  decide +kernel

theorem version_learned_on_lateHost :
    (auditor.sessionAfter lateHost [request, request, request] (.initial 0)).compiler =
      some (some 13) ∧
    ∃ events,
      (auditor.serve lateHost request
        (auditor.sessionAfter lateHost [request, request, request] (.initial 0))).2.journal =
        (auditor.sessionAfter lateHost [request, request, request] (.initial 0)).journal ++
          events ∧
      versionAnswers events = [] := by
  obtain ⟨hk, ⟨events, hj, hs⟩, -⟩ :=
    auditor.version_learned_once lateHost 0 [request, request, request] request
  have hr : .ran ⟨some 0, "g++ (GCC) 13.2.0", false⟩ ∈
      versionAnswers
        (auditor.sessionAfter lateHost [request, request, request] (.initial 0)).journal :=
    versionAnswers_lateHost ▸ List.mem_cons_of_mem _ List.mem_cons_self
  have hv : CompilerVersion.parse? "g++ (GCC) 13.2.0" = some 13 := by decide +kernel
  have hc := hk.told _ hr
  exact ⟨hc.trans (congrArg some hv), events, hj, (hs.silent _ hc).1⟩

end Sample
end CourseAudit
