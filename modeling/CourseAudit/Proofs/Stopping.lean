import CourseAudit.Proofs.Answers
import CourseAudit.Proofs.CheckNames

/-!
What stops a validation. Of all that tools may answer, only that the compiler cannot be run is a
reason to stop, and then nothing more is asked. Main statement: `validate_ending`.
-/
namespace CourseAudit

variable {σ α β ι γ : Type}

namespace Event

-- What no validation goes on from: the compiler cannot be run, or the machine breaks down.
inductive Stops : Event → Stop → Prop
  | compiler {i : Invocation} (f : ToolFailure) :
    i.tool = .compiler → Stops (.invoked i (.failed f)) (.failure (Auditor.compilerFailure f))
  | machine (i : Invocation) (message : Option String) :
    Stops (.invoked i (.broke message)) (.breakdown message)

def IsHarmless (e : Event) : Prop :=
  ∀ stop, ¬e.Stops stop

theorem Stops.unique {e : Event} {stop stop' : Stop} (h : e.Stops stop) (h' : e.Stops stop') :
    stop = stop' := by
  cases h <;> cases h' <;> rfl

theorem isHarmless_asked {program : String} {available : Bool} :
    (Event.asked program available).IsHarmless :=
  nofun

theorem isHarmless_ran {i : Invocation} {reply : Reply} :
    (Event.invoked i (.ran reply)).IsHarmless :=
  nofun

theorem isHarmless_failed {i : Invocation} {f : ToolFailure} (hi : i.tool ≠ .compiler) :
    (Event.invoked i (.failed f)).IsHarmless := by
  rintro _ ⟨⟩
  exact hi ‹_›

end Event

-- A part goes on until the first reason to stop, and for that reason it stops.
inductive StopsAtFirst : List Event → Except Stop α → Prop
  | done {events} (a) : (∀ e ∈ events, e.IsHarmless) → StopsAtFirst events (.ok a)
  | stopped {events e stop} :
    (∀ e ∈ events, e.IsHarmless) → e.Stops stop → StopsAtFirst (events ++ [e]) (.error stop)

namespace StopsAtFirst

variable {events later : List Event} {e : Event} {r : Except Stop α} {a : α} {stop : Stop}

theorem nil (a : α) : StopsAtFirst [] (.ok a) :=
  .done a (List.forall_mem_nil _)

theorem singleton (h : e.Stops stop) : StopsAtFirst [e] (.error stop : Except Stop α) := by
  have hs : StopsAtFirst ([] ++ [e]) (.error stop : Except Stop α) :=
    .stopped (List.forall_mem_nil _) h
  exact hs

theorem harmless (h : StopsAtFirst events (.ok a)) : ∀ e ∈ events, e.IsHarmless := by
  cases h
  assumption

theorem prepend (hh : ∀ e ∈ events, e.IsHarmless) (h : StopsAtFirst later r) :
    StopsAtFirst (events ++ later) r := by
  cases h
  case done a hl => exact .done a (List.forall_mem_append.2 ⟨hh, hl⟩)
  case stopped hl hs =>
    rw [← List.append_assoc]
    exact .stopped (List.forall_mem_append.2 ⟨hh, hl⟩) hs

theorem cons (he : e.IsHarmless) (h : StopsAtFirst later r) : StopsAtFirst (e :: later) r :=
  .prepend (List.forall_mem_singleton.2 he) h

-- The reason to stop does not depend on what would have been computed.
theorem of_error (h : StopsAtFirst events (.error stop : Except Stop α)) :
    StopsAtFirst events (.error stop : Except Stop β) := by
  cases h
  case stopped hh hs => exact .stopped hh hs

theorem of_ok {b : β} (h : StopsAtFirst events (.ok a)) : StopsAtFirst events (.ok b) :=
  .done b h.harmless

theorem inTurn {P : ι → List Event → Except Stop γ → Prop} {items : List ι}
    {r : Except Stop (List γ)}
    (hp : ∀ i ∈ items, ∀ events r, P i events r → StopsAtFirst events r)
    (h : Audit.InTurn P items events r) : StopsAtFirst events r := by
  induction h
  case nil => exact .nil _
  case stopped hc => exact (hp _ List.mem_cons_self _ _ hc).of_error
  case stoppedLater hc _ hi =>
    have hh := (hp _ List.mem_cons_self _ _ hc).harmless
    exact .prepend hh <| hi fun i hi => hp i (List.mem_cons_of_mem _ hi)
  case cons hc _ hi =>
    have hh := (hp _ List.mem_cons_self _ _ hc).harmless
    exact .prepend hh <| (hi fun i hi => hp i (List.mem_cons_of_mem _ hi)).of_ok

-- A reason to stop comes last, and it is the one that is given.
theorem eq_of_stops (h : StopsAtFirst (events ++ e :: later) r) (hs : e.Stops stop) :
    later = [] ∧ r = .error stop := by
  generalize hj : events ++ e :: later = journal at h
  cases h
  case done hh => exact absurd hs <| hh e (by simp [← hj]) stop
  case stopped earlier e' stop' hh hs' =>
    rcases List.eq_nil_or_concat later with rfl | ⟨front, last, rfl⟩
    case inl =>
      obtain ⟨rfl, he⟩ := List.append_inj' hj rfl
      cases he
      exact ⟨rfl, by rw [hs.unique hs']⟩
    case inr =>
      rw [List.concat_eq_append, ← List.cons_append, ← List.append_assoc] at hj
      obtain ⟨rfl, _⟩ := List.append_inj' hj rfl
      exact absurd hs <| hh e (by simp) stop

end StopsAtFirst

namespace Auditor

theorem CompilerInvoked.stopsAtFirst {i : Invocation} {events : List Event}
    {r : Except Stop ToolRun} (h : CompilerInvoked i events r) (hi : i.tool = .compiler) :
    StopsAtFirst events r := by
  cases h
  case ran => exact .cons Event.isHarmless_ran (.nil _)
  case failed f => exact .singleton (.compiler f hi)
  case broke => exact .singleton (.machine ..)

namespace Bench

variable {b : Bench} {number : Nat} {s : Subject} {tool : Tool} {events : List Event}

theorem CompileRecords.stopsAtFirst {r : Except Stop CheckResult}
    (h : b.CompileRecords number s events r) : StopsAtFirst events r := by
  cases h
  case judged => exact .cons Event.isHarmless_ran (.nil _)
  case stopped h => exact (h.stopsAtFirst rfl).of_error

theorem RunRecords.stopsAtFirst {i : Invocation} {attempt left : Nat} {r : Except Stop RunsEnd}
    (h : b.RunRecords i attempt left events r) (hi : i.tool ≠ .compiler) :
    StopsAtFirst events r := by
  induction h
  case unstartable f => exact .cons (Event.isHarmless_failed hi) (.nil _)
  case broke => exact .singleton (.machine ..)
  case last => exact .cons Event.isHarmless_ran (.nil _)
  case again hr => exact .cons Event.isHarmless_ran hr

theorem SanitizeRecords.stopsAtFirst {r : Except Stop CheckResult}
    (h : b.SanitizeRecords number s tool events r) (ht : tool ≠ .compiler) :
    StopsAtFirst events r := by
  have hi : (b.running number s.artifact tool).tool ≠ .compiler := by rwa [tool_running]
  cases h
  case unbuilt => exact .cons Event.isHarmless_ran (.nil _)
  case ended hr => exact .cons Event.isHarmless_ran (hr.stopsAtFirst hi).of_ok
  case broke hr => exact .cons Event.isHarmless_ran (hr.stopsAtFirst hi).of_error
  case stopped h => exact (h.stopsAtFirst rfl).of_error

theorem AnalyzeRecords.stopsAtFirst {analyzer : String} {available : Bool}
    {r : Except Stop CheckResult} (h : b.AnalyzeRecords analyzer s available events r) :
    StopsAtFirst events r := by
  have hi : (b.analyzing analyzer s.artifact).tool ≠ .compiler := nofun
  cases h
  case unavailable => exact .nil _
  case judged => exact .cons Event.isHarmless_ran (.nil _)
  case gone => exact .cons (Event.isHarmless_failed hi) (.nil _)
  case failed => exact .cons (Event.isHarmless_failed hi) (.nil _)
  case broke => exact .singleton (.machine ..)

theorem StepRecords.stopsAtFirst {step : Step} {r : Except Stop (List CheckResult)}
    (h : b.StepRecords number step events r) (hs : step.IsPlanned) : StopsAtFirst events r := by
  cases h
  case compile h => exact h.stopsAtFirst.of_ok
  case compileStopped h => exact h.stopsAtFirst.of_error
  case skipCompile => exact .nil _
  case sanitize h => exact (h.stopsAtFirst (Tool.ne_compiler_of_isSanitizer hs)).of_ok
  case sanitizeStopped h => exact (h.stopsAtFirst (Tool.ne_compiler_of_isSanitizer hs)).of_error
  case review => exact .nil _
  case analyze h =>
    exact .cons Event.isHarmless_asked <| .inTurn (fun _ _ _ _ h => h.stopsAtFirst) h

theorem StepsRecord.stopsAtFirst {steps : List Step} {r : Except Stop (List CheckResult)}
    (h : b.StepsRecord number steps events r) (hs : ∀ step ∈ steps, step.IsPlanned) :
    StopsAtFirst events r := by
  have hp (p) (hp : p ∈ Step.numbered number steps) (events r)
      (h : b.StepRecords p.1 p.2 events r) : StopsAtFirst events r :=
    h.stopsAtFirst <| hs _ (Step.mem_of_mem_numbered hp)
  cases r
  case error => exact (StopsAtFirst.inTurn hp h).of_error
  case ok =>
    obtain ⟨parts, h, -⟩ := h
    exact (StopsAtFirst.inTurn hp h).of_ok

end Bench
end Auditor

-- An exchange that can have taken place with a host, in one of its states.
inductive Host.Answered (h : Host σ) : Event → Prop
  | asked (program s) : h.Answered (.asked program (h.isAvailable program s).1)
  | invoked (i s) : h.Answered (.invoked i (h.invoke i s).1)

def Host.AnsweredAll (h : Host σ) (events : List Event) (_ : Except Stop α) : Prop :=
  ∀ e ∈ events, h.Answered e

namespace Audit.Records

variable {h : Host σ} {x : Audit σ α} {f : α → Audit σ β}

theorem and {P Q : List Event → Except Stop α → Prop} (hp : x.Records P) (hq : x.Records Q) :
    x.Records fun events r => P events r ∧ Q events r := by
  intro s
  obtain ⟨events, hc, hp⟩ := hp s
  obtain ⟨events', hc', hq⟩ := hq s
  cases List.append_cancel_left (hc.journal.symm.trans hc'.journal)
  exact ⟨events, hc, hp, hq⟩

theorem answered_pure (a : α) : (Pure.pure a : Audit σ α).Records h.AnsweredAll :=
  .pure (List.forall_mem_nil _)

theorem answered_stop (e : Stop) : (Audit.stop e : Audit σ α).Records h.AnsweredAll :=
  .stop (List.forall_mem_nil _)

theorem answered_bind (hx : x.Records h.AnsweredAll) (hf : ∀ a, (f a).Records h.AnsweredAll) :
    (x >>= f).Records h.AnsweredAll :=
  hx.bind (fun _ _ he => he) fun _ a he =>
    (hf a).mono fun _ _ hl => List.forall_mem_append.2 ⟨he, hl⟩

theorem answered_isAvailable (program : String) :
    (Audit.isAvailable h program).Records h.AnsweredAll :=
  fun s => ⟨_, .record .., List.forall_mem_singleton.2 (.asked program s.host)⟩

theorem answered_invoke (i : Invocation) : (Audit.invoke h i).Records h.AnsweredAll := by
  intro s
  have ha : h.Answered (.invoked i (h.invoke i s.host).1) := .invoked i s.host
  refine ⟨[.invoked i (h.invoke i s.host).1], ?_, List.forall_mem_singleton.2 ha⟩
  rw [Audit.invoke]
  rcases h.invoke i s.host with ⟨_ | _ | _, host⟩ <;> exact .record ..

end Audit.Records

namespace Auditor

open Audit.Records

variable {h : Host σ}

theorem invokeCompiler_answered (i : Invocation) :
    (invokeCompiler h i).Records h.AnsweredAll := by
  refine answered_bind (answered_invoke i) fun r => ?_
  cases r
  case ok => exact answered_pure _
  case error => exact answered_stop _

namespace Bench

variable {b : Bench} {s : Subject}

theorem runUntil_answered (i : Invocation) (attempt left : Nat) :
    (b.runUntil h i attempt left).Records h.AnsweredAll := by
  induction left generalizing attempt <;> rw [runUntil] <;>
    refine answered_bind (answered_invoke i) fun r => ?_
  case zero => cases r <;> exact answered_pure _
  case succ left hi =>
    cases r
    case error => exact answered_pure _
    case ok =>
      dsimp only
      split
      case isTrue => exact answered_pure _
      case isFalse => exact hi _

theorem sanitize_answered (number : Nat) (s : Subject) (tool : Tool) :
    (b.sanitize h number s tool).Records h.AnsweredAll := by
  refine answered_bind (invokeCompiler_answered _) fun run => ?_
  dsimp only
  split
  case h_1 => exact answered_bind (runUntil_answered _ _ _) fun _ => answered_pure _
  case h_2 => exact answered_pure _

theorem analyzeEach_answered (analyzer : String) (available : Bool) (subjects : List Subject) :
    (b.analyzeEach h analyzer available subjects).Records h.AnsweredAll := by
  have ho (s : Subject) : (b.analyzeOne h analyzer available s).Records h.AnsweredAll := by
    cases available
    case false => exact answered_pure _
    case true =>
      refine answered_bind (answered_invoke _) fun r => ?_
      rcases r with (_ | _ | _) | _ <;> exact answered_pure _
  induction subjects
  case nil => exact answered_pure _
  case cons s rest hi =>
    exact answered_bind (ho s) fun _ => answered_bind hi fun _ => answered_pure _

theorem runStep_answered (number : Nat) (step : Step) :
    (b.runStep h number step).Records h.AnsweredAll := by
  cases step
  case compile =>
    exact answered_bind (answered_bind (invokeCompiler_answered _) fun _ => answered_pure _)
      fun _ => answered_pure _
  case skipCompile => exact answered_pure _
  case sanitize => exact answered_bind (sanitize_answered _ _ _) fun _ => answered_pure _
  case review => exact answered_pure _
  case analyze =>
    exact answered_bind (answered_isAvailable _) fun _ => analyzeEach_answered _ _ _

-- All that the steps of a plan exchange, they exchange with the host.
theorem runSteps_answered (number : Nat) (steps : List Step) :
    (b.runSteps h number steps).Records h.AnsweredAll := by
  induction steps generalizing number
  case nil => exact answered_pure _
  case cons step rest hi =>
    refine answered_bind (runStep_answered _ _) fun _ => ?_
    exact answered_bind (hi _) fun _ => answered_pure _

end Bench
end Auditor

-- The machine does not break down, whatever it is asked to run.
def Host.NeverBreaks (h : Host σ) : Prop :=
  ∀ i s message, (h.invoke i s).1 ≠ .broke message

theorem Host.NeverBreaks.not_answered {h : Host σ} (hh : h.NeverBreaks) (i : Invocation)
    (message : Option String) : ¬h.Answered (.invoked i (.broke message)) := by
  intro ha
  generalize hb : Answer.broke message = answer at ha
  cases ha
  case invoked s => exact hh i s message hb.symm

-- What was exchanged decides how a part ends: it stops if and only if the compiler could not be
-- run, and it does so the first time.
structure StopsForCompiler (events : List Event) (r : Except Stop α) : Prop where
  stops_iff : (∃ stop, r = .error stop) ↔
    ∃ i f, .invoked i (.failed f) ∈ events ∧ i.tool = .compiler
  first     : ∀ earlier i f later, events = earlier ++ .invoked i (.failed f) :: later →
    i.tool = .compiler → later = [] ∧ r = .error (.failure (Auditor.compilerFailure f))

theorem StopsAtFirst.stopsForCompiler {events : List Event} {r : Except Stop α}
    (h : StopsAtFirst events r) (hb : ∀ i message, .invoked i (.broke message) ∉ events) :
    StopsForCompiler events r where
  stops_iff := by
    constructor
    case mp =>
      rintro ⟨stop, rfl⟩
      cases h
      case stopped hs =>
        cases hs
        case compiler i f hi => exact ⟨i, f, by simp, hi⟩
        case machine i message => exact absurd (by simp) (hb i message)
    case mpr =>
      rintro ⟨i, f, he, hi⟩
      obtain ⟨earlier, later, rfl⟩ := List.append_of_mem he
      exact ⟨_, (h.eq_of_stops (.compiler f hi)).2⟩
  first earlier i f later he hi := by
    subst he
    exact h.eq_of_stops (.compiler f hi)

theorem StopsForCompiler.map {events : List Event} {r : Except Stop α}
    (h : StopsForCompiler events r) (f : α → β) : StopsForCompiler events (r.map f) := by
  cases r
  case error => exact ⟨by simpa [Except.map] using h.stops_iff, by simpa [Except.map] using h.first⟩
  case ok => exact ⟨by simpa [Except.map] using h.stops_iff, by simpa [Except.map] using h.first⟩

namespace Artifacts

variable {files : FileTree} {directory : Path} {f : AuditFailure}

theorem exists_of_sourcesOf_eq_error {entry : FileTree.Entry}
    (h : sourcesOf files directory entry = .error f) :
    ∃ path causes, f = .directoryUnreadable path causes := by
  rw [sourcesOf] at h
  split at h
  case h_1 => cases h
  case h_2 => cases h
  case h_3 =>
    split at h
    case isFalse => cases h
    case isTrue =>
      dsimp only at h
      split at h <;> cases h
      exact ⟨_, _, rfl⟩

theorem exists_of_collect_eq_error {entries : List FileTree.Entry}
    (h : collect files directory entries = .error f) :
    ∃ path causes, f = .directoryUnreadable path causes := by
  induction entries
  case nil => cases h
  case cons entry rest hi =>
    rw [collect] at h
    rcases he : sourcesOf files directory entry with f' | here <;> rw [he] at h
    case error =>
      cases h
      exact exists_of_sourcesOf_eq_error he
    case ok =>
      rcases hr : collect files directory rest with f' | behind <;> rw [hr] at h <;> cases h
      exact hi hr

-- The sources are not found for one reason only.
theorem exists_of_discover_eq_error (h : discover files directory = .error f) :
    ∃ path causes, f = .directoryUnreadable path causes := by
  rw [discover] at h
  split at h
  case h_1 =>
    cases h
    exact ⟨_, _, rfl⟩
  case h_2 entries _ =>
    rcases hr : collect files directory entries with f' | sources <;> rw [hr] at h <;> cases h
    exact exists_of_collect_eq_error hr

end Artifacts

namespace Auditor

-- The compiler is not known yet, and it is not there.
def CompilerMissing (v : Auditor) (h : Host σ) (s : Session σ) : Prop :=
  s.compiler = none ∧ (h.isAvailable v.config.compiler s.host).1 = false

-- The compiler is not known yet, and though it is there, it cannot be run to tell its version.
def VersionFails (v : Auditor) (h : Host σ) (s : Session σ) (f : ToolFailure) : Prop :=
  s.compiler = none ∧ ∃ host, h.isAvailable v.config.compiler s.host = (true, host) ∧
    (h.invoke (Toolchain.version v.config) host).1 = .failed f

variable {v : Auditor} {h : Host σ} {s : Session σ}

theorem invokeCompiler_apply (h : Host σ) (i : Invocation) (s : Session σ) :
    invokeCompiler h i s =
      match h.invoke i s.host with
      | (.ran reply, host) => (.ok (reply.toRun i), s.record host (.invoked i (.ran reply)))
      | (.failed f, host) =>
        (.error (.failure (compilerFailure f)), s.record host (.invoked i (.failed f)))
      | (.broke message, host) =>
        (.error (.breakdown message), s.record host (.invoked i (.broke message))) := by
  rw [invokeCompiler, Audit.bind_apply, Audit.invoke]
  rcases h.invoke i s.host with ⟨_ | _ | _, host⟩ <;> rfl

theorem askVersion_of_missing {host : σ}
    (ha : h.isAvailable v.config.compiler s.host = (false, host)) :
    v.askVersion h s = (.error (.failure (.toolchainMissing v.config.compiler)),
      s.record host (.asked v.config.compiler false)) := by
  simp only [askVersion, Audit.bind_apply, Audit.isAvailable, ha]
  rfl

theorem askVersion_of_available {host : σ}
    (ha : h.isAvailable v.config.compiler s.host = (true, host)) :
    v.askVersion h s =
      (invokeCompiler h (Toolchain.version v.config)
        (s.record host (.asked v.config.compiler true))).map
        (·.map fun run => CompilerVersion.parse? run.output) id := by
  simp only [askVersion, Audit.bind_apply, Audit.isAvailable, ha, if_true]
  rcases invokeCompiler h _ _ with ⟨_ | _, _⟩ <;> rfl

theorem compilerMajor_of_missing (hm : v.CompilerMissing h s) :
    ∃ t, v.compilerMajor h s = (.error (.failure (.toolchainMissing v.config.compiler)), t) ∧
      t.journal = s.journal ++ [.asked v.config.compiler false] := by
  obtain ⟨hc, ha⟩ := hm
  rcases hr : h.isAvailable v.config.compiler s.host with ⟨available, host⟩
  rw [hr] at ha
  subst ha
  exact ⟨_, by rw [compilerMajor, hc, askVersion_of_missing hr], rfl⟩

theorem compilerMajor_of_versionFails {f : ToolFailure} (hf : v.VersionFails h s f) :
    ∃ t, v.compilerMajor h s = (.error (.failure (compilerFailure f)), t) ∧
      t.journal = s.journal ++
        [.asked v.config.compiler true, .invoked (Toolchain.version v.config) (.failed f)] := by
  obtain ⟨hc, host, ha, hi⟩ := hf
  rcases hr : h.invoke (Toolchain.version v.config) host with ⟨answer, host'⟩
  rw [hr] at hi
  subst hi
  refine ⟨((s.record host (.asked v.config.compiler true)).record host'
    (.invoked (Toolchain.version v.config) (.failed f))), ?_, ?_⟩
  · have hh : (s.record host (.asked v.config.compiler true)).host = host := rfl
    rw [compilerMajor, hc, askVersion_of_available ha, invokeCompiler_apply, hh, hr]
    rfl
  · exact List.append_assoc ..

-- Nothing is a reason to stop until the version is known.
theorem MajorRecords.harmless {known known' : Option (Option UInt32)} {events : List Event}
    {major : Option UInt32} (hm : v.MajorRecords known events known' (.ok major)) :
    ∀ e ∈ events, e.IsHarmless := by
  cases hm
  case known => exact List.forall_mem_nil _
  case learned hr =>
    cases hr
    exact List.forall_mem_cons.2
      ⟨Event.isHarmless_asked, List.forall_mem_singleton.2 Event.isHarmless_ran⟩

-- Unless one of these is the case, the version is known in the end.
theorem exists_compilerMajor (hh : h.NeverBreaks) (hm : ¬v.CompilerMissing h s)
    (hf : ∀ f, ¬v.VersionFails h s f) : ∃ major t, v.compilerMajor h s = (.ok major, t) := by
  rcases hc : s.compiler with _ | major
  case some => exact ⟨major, s, by rw [compilerMajor, hc]⟩
  case none =>
    rcases ha : h.isAvailable v.config.compiler s.host with ⟨_ | _, host⟩
    case false => exact absurd ⟨hc, by rw [ha]⟩ hm
    case true =>
      have hs : (s.record host (.asked v.config.compiler true)).host = host := rfl
      rw [compilerMajor, hc, askVersion_of_available ha, invokeCompiler_apply, hs]
      rcases hi : h.invoke (Toolchain.version v.config) host with ⟨reply | f | message, host'⟩
      case ran => exact ⟨_, _, rfl⟩
      case failed => exact absurd ⟨hc, host, ha, by rw [hi]⟩ (hf f)
      case broke => exact absurd (by rw [hi]) (hh _ host message)

section

variable {steps : List Step} {major : Option UInt32} {t : Session σ}

theorem buildResults_of_noBuild (hm : v.compilerMajor h s = (.ok major, t)) {causes : List String}
    (ho : (h.openBuild t.host).1 = .error causes) :
    ∃ u, v.buildResults h steps s = (.error (.failure (.buildDirectory causes)), u) ∧
      u.journal = t.journal ++ [.noBuild] := by
  rw [buildResults, Audit.bind_of_ok hm, Audit.withBuild]
  rcases hr : h.openBuild t.host with ⟨r, host⟩
  rw [hr] at ho
  subst ho
  exact ⟨_, rfl, rfl⟩

theorem buildResults_of_opened (hh : h.NeverBreaks) (hm : v.compilerMajor h s = (.ok major, t))
    (hs : ∀ step ∈ steps, step.IsPlanned) {build : Path}
    (ho : (h.openBuild t.host).1 = .ok build) :
    ∃ r u before events, v.buildResults h steps s = (r, u) ∧
      u.journal = s.journal ++ (before ++ .openedBuild build :: events ++ [.closedBuild build]) ∧
      StopsForCompiler (before ++ events) r := by
  obtain ⟨before, hb, hr⟩ := v.compilerMajor_records h s
  rw [hm] at hb hr
  dsimp only at hb
  have hr := hr.harmless
  rw [buildResults, Audit.bind_of_ok hm, Audit.withBuild]
  rcases ho' : h.openBuild t.host with ⟨r, host⟩
  rw [ho'] at ho
  subst ho
  obtain ⟨events, hc, he, ha⟩ := ((Bench.mk v major build).runSteps_records h 1 steps).and
    (Bench.runSteps_answered 1 steps) (t.record host (.openedBuild build))
  have hn (i : Invocation) (message : Option String) :
      .invoked i (.broke message) ∉ before ++ events := by
    intro hi
    rcases List.mem_append.1 hi with hi | hi
    case inl => exact hr _ hi _ (.machine i message)
    case inr => exact hh.not_answered _ _ (ha _ hi)
  refine ⟨_, _, before, events, rfl, ?_, ((he.stopsAtFirst hs).prepend hr).stopsForCompiler hn⟩
  refine (congrArg (· ++ [.closedBuild build]) hc.journal).trans ?_
  simp [Session.record, hb]

end

section

variable {files : FileTree} {directory : Path} {options : Options}

-- The validation gets so far that something is to be built.
def Builds (files : FileTree) (directory : Path) (options : Options) : Prop :=
  ∃ artifacts, Artifacts.discover files directory = .ok artifacts ∧ options.skipBuild = false

-- How a validation ends, and what has been exchanged with the machine by then.
structure Ending (v : Auditor) (files : FileTree) (h : Host σ) (directory : Path)
    (options : Options) (s : Session σ) (r : Except Stop Scorecard) (u : Session σ) : Prop where
  undiscovered : ∀ f, Artifacts.discover files directory = .error f →
    (∃ path causes, f = .directoryUnreadable path causes) ∧ r = .error (.failure f) ∧ u = s
  skipped      : ∀ artifacts, Artifacts.discover files directory = .ok artifacts →
    options.skipBuild = true → (∃ card, r = .ok card) ∧ u = s
  missing      : Builds files directory options → v.CompilerMissing h s →
    r = .error (.failure (.toolchainMissing v.config.compiler)) ∧
      u.journal = s.journal ++ [.asked v.config.compiler false]
  versionless  : Builds files directory options → ∀ f, v.VersionFails h s f →
    r = .error (.failure (compilerFailure f)) ∧
      u.journal = s.journal ++
        [.asked v.config.compiler true, .invoked (Toolchain.version v.config) (.failed f)]
  noBuild      : Builds files directory options → ¬v.CompilerMissing h s →
    (∀ f, ¬v.VersionFails h s f) →
    ∀ causes, (h.openBuild (v.compilerMajor h s).2.host).1 = .error causes →
      r = .error (.failure (.buildDirectory causes)) ∧
        u.journal = (v.compilerMajor h s).2.journal ++ [.noBuild]
  built        : Builds files directory options → ¬v.CompilerMissing h s →
    (∀ f, ¬v.VersionFails h s f) →
    ∀ build, (h.openBuild (v.compilerMajor h s).2.host).1 = .ok build →
      ∃ before events, StopsForCompiler (before ++ events) r ∧
        u.journal = s.journal ++ (before ++ .openedBuild build :: events ++ [.closedBuild build])

-- Only what the machine is unfit for stops a validation: to read the pattern, to tell the version
-- of the compiler, to make a directory, or to run the compiler. No finding about a source does.
theorem validate_ending (hh : h.NeverBreaks) (v : Auditor) (files : FileTree) (directory : Path)
    (options : Options) (s : Session σ) :
    v.Ending files h directory options s (v.validate files h directory options s).1
      (v.validate files h directory options s).2 where
  undiscovered f hd := by
    rw [validate_of_undiscovered hd]
    exact ⟨Artifacts.exists_of_discover_eq_error hd, rfl, rfl⟩
  skipped artifacts hd ho := by
    rw [validate_of_skipBuild hd ho]
    exact ⟨⟨_, rfl⟩, rfl⟩
  missing hb hm := by
    obtain ⟨artifacts, hd, ho⟩ := hb
    obtain ⟨t, hm, hj⟩ := compilerMajor_of_missing hm
    rw [validate_of_discover hd ho, buildResults, Audit.bind_of_error hm]
    exact ⟨rfl, hj⟩
  versionless hb f hf := by
    obtain ⟨artifacts, hd, ho⟩ := hb
    obtain ⟨t, hm, hj⟩ := compilerMajor_of_versionFails hf
    rw [validate_of_discover hd ho, buildResults, Audit.bind_of_error hm]
    exact ⟨rfl, hj⟩
  noBuild hb hm hf causes hc := by
    obtain ⟨artifacts, hd, ho⟩ := hb
    obtain ⟨major, t, hm⟩ := exists_compilerMajor hh hm hf
    rw [hm] at hc ⊢
    obtain ⟨u, hr, hj⟩ := buildResults_of_noBuild hm hc
    rw [validate_of_discover hd ho, hr]
    exact ⟨rfl, hj⟩
  built hb hm hf build hc := by
    obtain ⟨artifacts, hd, ho⟩ := hb
    obtain ⟨major, t, hm⟩ := exists_compilerMajor hh hm hf
    rw [hm] at hc
    obtain ⟨r, u, before, events, hr, hj, hs⟩ :=
      buildResults_of_opened hh hm (fun _ => isPlanned_of_mem_steps) hc
    rw [validate_of_discover hd ho, hr]
    exact ⟨before, events, hs.map _, hj⟩

end

end Auditor

namespace Sample

-- A machine on which no program can be run, and from which the compiler vanishes as soon as it is
-- to look for data races.
def wornHost : Host Unit where
  isAvailable _ _ := (true, ())
  invoke i _ :=
    if i.args.contains "-fsanitize=thread" then (.failed (.notFound "g++"), ())
    else if i.tool = .compiler then (.ran ⟨some 0, "", false⟩, ())
    else (.failed (.spawn i.program []), ())
  openBuild _ := (.ok ⟨"/tmp/build"⟩, ())
  closeBuild _ _ := ()

theorem wornHost_neverBreaks : wornHost.NeverBreaks := by
  intro i s message
  rw [wornHost]
  dsimp only
  split
  case isTrue => nofun
  case isFalse => split <;> nofun

theorem validate_isOk_on_wornHost :
    (auditor.validate files wornHost directory ⟨.full, false⟩ (.initial ())).1.isOk = false := by
  rw [Auditor.validate_of_discover discover_eq rfl]
  decide +kernel

theorem stops_when_compiler_vanishes :
    ∃ before events earlier i f,
      (auditor.validate files wornHost directory ⟨.full, false⟩ (.initial ())).2.journal =
        before ++ .openedBuild ⟨"/tmp/build"⟩ :: events ++ [.closedBuild ⟨"/tmp/build"⟩] ∧
      before ++ events = earlier ++ [.invoked i (.failed f)] ∧ i.tool = .compiler ∧
      (auditor.validate files wornHost directory ⟨.full, false⟩ (.initial ())).1 =
        .error (.failure (Auditor.compilerFailure f)) := by
  have he := Auditor.validate_ending wornHost_neverBreaks auditor files directory ⟨.full, false⟩
    (.initial ())
  have hm : ¬auditor.CompilerMissing wornHost (.initial ()) := fun hm => Bool.noConfusion hm.2
  have hf (f : ToolFailure) : ¬auditor.VersionFails wornHost (.initial ()) f := by
    rintro ⟨-, _, -, hi⟩
    cases hi
  obtain ⟨before, events, hs, hj⟩ := he.built ⟨artifacts, discover_eq, rfl⟩ hm hf _ rfl
  have hr := validate_isOk_on_wornHost
  rcases hv : (auditor.validate files wornHost directory ⟨.full, false⟩ (.initial ())).1
    with stop | card <;> rw [hv] at hr hs
  case ok => cases hr
  case error =>
    obtain ⟨i, f, he, hi⟩ := hs.stops_iff.1 ⟨stop, rfl⟩
    obtain ⟨earlier, later, he⟩ := List.append_of_mem he
    obtain ⟨rfl, hr⟩ := hs.first earlier i f later he hi
    exact ⟨before, events, earlier, i, f, hj, he, hi, hr⟩

end Sample
end CourseAudit
