import CourseAudit.Proofs.Answers
import CourseAudit.Proofs.Interference
import CourseAudit.Proofs.Paths
import Mathlib.Data.List.Pairwise

/-!
Which programs are built. Each invocation of the compiler makes an output of its own, directly below
the directory for builds. Main statements: `StepsRecord.outputs_prefix`, `nodup_outputs` and
`isChild_of_mem_outputs`.
-/
namespace CourseAudit

-- The program that an invocation of the compiler is to make. Asking for its version makes none.
def Invocation.output? (i : Invocation) : Option String :=
  if i.tool = .compiler ∧ i.args ≠ ["--version"] then i.args.getLast? else none

def Event.output? : Event → Option String
  | .invoked i _ => i.output?
  | _ => none

-- All outputs, in the order in which they are made.
def outputs (events : List Event) : List String :=
  events.filterMap Event.output?

theorem outputs_append (events later : List Event) :
    outputs (events ++ later) = outputs events ++ outputs later :=
  List.filterMap_append

theorem stepsChecks_eq_flatMap (number : Nat) (steps : List Step) :
    stepsChecks number steps = (Step.numbered number steps).flatMap fun p => p.2.checks p.1 := by
  induction steps generalizing number
  case nil => rfl
  case cons step rest hi => rw [stepsChecks, Step.numbered, List.flatMap_cons, hi]

-- Of two exchanges that make the same output there is only one.
theorem eq_of_output?_eq {events : List Event} {e e' : Event} {output : String}
    (hn : (outputs events).Nodup) (he : e ∈ events) (he' : e' ∈ events)
    (ho : e.output? = some output) (ho' : e'.output? = some output) : e = e' := by
  let R (e e' : Event) : Prop :=
    ∀ o, e.output? = some o → ∀ o', e'.output? = some o' → o ≠ o'
  have : Std.Symm R := ⟨fun _ _ h o ho o' ho' => (h o' ho' o ho).symm⟩
  have hp : events.Pairwise R := List.pairwise_filterMap.1 hn
  by_contra hne
  exact hp.forall he he' hne output ho output ho' rfl

theorem outputs_singleton {i : Invocation} {answer : Answer} {output : String}
    (h : i.output? = some output) : outputs [.invoked i answer] = [output] :=
  List.filterMap_cons_some h

namespace Auditor

namespace Bench

variable {b : Bench} {number : Nat} {events : List Event}

variable (b) in
-- The output of a check, if it makes one.
def output? : Check → Option String
  | .compile number s => some (outputPath b.build number .compiler s.artifact).text
  | .sanitize number s tool => some (outputPath b.build number tool s.artifact).text
  | _ => none

theorem output?_building (number : Nat) (a : Artifact) (sanitizer : Option Tool) :
    (b.building number a sanitizer).output? =
      some (outputPath b.build number (sanitizer.getD .compiler) a).text := by
  have hv := b.args_building_ne_version number a sanitizer
  rw [Invocation.output?, if_pos ⟨rfl, hv⟩, getLast?_args_building]

theorem outputs_of_tool_ne {i : Invocation} (hi : i.tool ≠ .compiler)
    (h : ∀ e ∈ events, ∃ answer, e = .invoked i answer) : outputs events = [] := by
  refine List.filterMap_eq_nil_iff.2 fun e he => ?_
  obtain ⟨answer, rfl⟩ := h e he
  exact if_neg fun hc => hi hc.1

theorem CompileRecords.outputs_eq {s : Subject} {r : Except Stop CheckResult}
    (h : b.CompileRecords number s events r) :
    outputs events = [(outputPath b.build number .compiler s.artifact).text] := by
  obtain ⟨answer, rfl⟩ := h.exists_eq
  exact outputs_singleton (output?_building ..)

-- The check of a source under a sanitizer is a build, and if that was good, runs of the program.
theorem SanitizeRecords.exists_eq_cons {s : Subject} {tool : Tool} {r : Except Stop CheckResult}
    (h : b.SanitizeRecords number s tool events r) :
    ∃ answer runs, events = .invoked (b.building number s.artifact tool) answer :: runs ∧
      (∀ e ∈ runs, ∃ answer, e = .invoked (b.running number s.artifact tool) answer) ∧
      (runs ≠ [] → ∃ reply, answer = .ran reply ∧ reply.exitedCleanly = true) := by
  cases h
  case unbuilt reply _ => exact ⟨.ran reply, [], rfl, List.forall_mem_nil _, absurd rfl⟩
  case ended reply runs _ hv h =>
    exact ⟨_, runs, rfl, h.eq_invoked, fun _ => ⟨reply, rfl, verdictOn_building_eq_clean.1 hv⟩⟩
  case broke reply runs _ hv h =>
    exact ⟨_, runs, rfl, h.eq_invoked, fun _ => ⟨reply, rfl, verdictOn_building_eq_clean.1 hv⟩⟩
  case stopped h =>
    obtain ⟨answer, rfl⟩ := h.exists_eq
    exact ⟨answer, [], rfl, List.forall_mem_nil _, absurd rfl⟩

theorem SanitizeRecords.outputs_eq {s : Subject} {tool : Tool} {r : Except Stop CheckResult}
    (h : b.SanitizeRecords number s tool events r) (ht : tool ≠ .compiler) :
    outputs events = [(outputPath b.build number tool s.artifact).text] := by
  obtain ⟨answer, runs, rfl, hr, -⟩ := h.exists_eq_cons
  have ho : outputs runs = [] := outputs_of_tool_ne (by rwa [tool_running]) hr
  rw [← List.singleton_append, outputs_append, ho, List.append_nil]
  exact outputs_singleton (output?_building ..)

theorem AnalyzeRecords.outputs_eq {analyzer : String} {s : Subject} {available : Bool}
    {r : Except Stop CheckResult} (h : b.AnalyzeRecords analyzer s available events r) :
    outputs events = [] := by
  cases h <;> rfl

theorem StepRecords.outputs_eq {step : Step} {r : Except Stop (List CheckResult)}
    (h : b.StepRecords number step events r) (hs : step.IsPlanned) :
    outputs events = (step.checks number).filterMap b.output? := by
  cases h
  case compile h => exact h.outputs_eq
  case compileStopped h => exact h.outputs_eq
  case skipCompile => rfl
  case sanitize h => exact h.outputs_eq (Tool.ne_compiler_of_isSanitizer hs)
  case sanitizeStopped h => exact h.outputs_eq (Tool.ne_compiler_of_isSanitizer hs)
  case review => rfl
  case analyze analyzer subjects events available h =>
    have hc : (Step.checks number (.analyze analyzer subjects)).filterMap b.output? = [] := by
      simp [Step.checks, output?]
    have hn : subjects.flatMap (fun _ => ([] : List String)) = [] := by simp
    have hp : outputs events <+: subjects.flatMap fun _ => [] :=
      h.filterMap_prefix fun _ _ _ _ h => h.outputs_eq
    rw [hc]
    exact List.prefix_nil.1 (hn ▸ hp)

-- As far as a plan is carried out, its outputs are made in order.
theorem StepsRecord.outputs_prefix {steps : List Step} {r : Except Stop (List CheckResult)}
    (h : b.StepsRecord number steps events r) (hs : ∀ step ∈ steps, step.IsPlanned) :
    outputs events <+: (stepsChecks number steps).filterMap b.output? := by
  have hp (p) (hp : p ∈ Step.numbered number steps) (events r)
      (h : b.StepRecords p.1 p.2 events r) :
      events.filterMap Event.output? = (p.2.checks p.1).filterMap b.output? :=
    h.outputs_eq <| hs _ (Step.mem_of_mem_numbered hp)
  rw [stepsChecks_eq_flatMap, List.filterMap_flatMap]
  cases r
  case error => exact Audit.InTurn.filterMap_prefix hp h
  case ok =>
    obtain ⟨parts, h, -⟩ := h
    exact h.filterMap_prefix hp

-- The outputs of two checks have different numbers.
theorem nodup_outputs (b : Bench) (number : Nat) (steps : List Step) :
    ((stepsChecks number steps).filterMap b.output?).Nodup := by
  refine (pairwise_stepsChecks number steps).filterMap _ fun c d hcd o ho o' ho' he => ?_
  have hn {c : Check} {o : String} (ho : b.output? c = some o) :
      ∃ n tool a, c.number? = some n ∧ o = (outputPath b.build n tool a).text := by
    cases c <;> cases ho
    case compile n s => exact ⟨n, _, _, rfl, rfl⟩
    case sanitize n s tool => exact ⟨n, _, _, rfl, rfl⟩
  obtain ⟨m, _, _, hm, rfl⟩ := hn ho
  obtain ⟨n, _, _, hn, rfl⟩ := hn ho'
  exact hcd m hm (number_eq_of_outputPath_eq (congrArg Path.mk he) ▸ hn)

end Bench

-- A text lies directly below a directory.
def IsChild (output : String) (directory : Path) : Prop :=
  ∃ name, output = (directory.join name).text ∧
    (directory.join name).components = directory.components ++ [.name name]

theorem isChild_outputPath (build : Path) (number : Nat) {tool : Tool}
    (ht : '/' ∉ tool.shortName.toList) (a : Artifact) :
    IsChild (outputPath build number tool a).text build :=
  ⟨outputName number tool a, rfl, build.components_join (isName_outputName number ht a)⟩

namespace Bench

variable {b : Bench} {number : Nat} {events : List Event} {steps : List Step}

theorem isChild_of_mem_outputs (hs : ∀ step ∈ steps, step.IsPlanned) {output : String}
    (ho : output ∈ (stepsChecks number steps).filterMap b.output?) : IsChild output b.build := by
  obtain ⟨c, hc, ho⟩ := List.mem_filterMap.1 ho
  cases c <;> cases ho
  case compile => exact isChild_outputPath _ _ (by decide) _
  case sanitize tool =>
    have ht : tool.isSanitizer = true := isPlanned_of_mem_stepsChecks hs hc
    exact isChild_outputPath _ _ (Tool.slash_not_mem_shortName ht) _

end Bench
end Auditor
end CourseAudit
