import CourseAudit.Proofs.Outputs

/-!
What the answers in a journal say about the checks. A check counts for a pattern because of what the
tools answered to its invocations, so each part of a validation gets a lemma that tells from the
answers alone whether its result counts against the pattern (`isFine`).
-/
namespace CourseAudit

namespace Event

def answerTo? (i : Invocation) : Event → Option Answer
  | .invoked j answer => if j = i then some answer else none
  | _ => none

end Event

-- The answers to an invocation, in the order of the events.
def answersTo (i : Invocation) (events : List Event) : List Answer :=
  events.filterMap (·.answerTo? i)

section

variable {i j : Invocation} {answer : Answer} {events later : List Event}

theorem answersTo_append (i : Invocation) (events later : List Event) :
    answersTo i (events ++ later) = answersTo i events ++ answersTo i later :=
  List.filterMap_append

@[simp]
theorem answersTo_cons_self (i : Invocation) (answer : Answer) (events : List Event) :
    answersTo i (.invoked i answer :: events) = answer :: answersTo i events :=
  List.filterMap_cons_some (if_pos rfl)

theorem answersTo_cons_of_ne (h : j ≠ i) :
    answersTo i (.invoked j answer :: events) = answersTo i events :=
  List.filterMap_cons_none (if_neg h)

theorem mem_answersTo : answer ∈ answersTo i events ↔ .invoked i answer ∈ events := by
  rw [answersTo, List.mem_filterMap]
  constructor
  case mp =>
    rintro ⟨e, he, ha⟩
    cases e <;> simp [Event.answerTo?] at ha
    case invoked => exact ha.1 ▸ ha.2 ▸ he
  case mpr => exact fun h => ⟨_, h, if_pos rfl⟩

theorem answersTo_eq_nil (h : ∀ answer, .invoked i answer ∉ events) : answersTo i events = [] :=
  List.eq_nil_iff_forall_not_mem.2 fun answer hm => h answer (mem_answersTo.1 hm)

-- The one answer to the invocation is a run that ended well.
def Succeeded (events : List Event) (i : Invocation) : Prop :=
  ∃ reply, answersTo i events = [.ran reply] ∧ reply.exitedCleanly = true

end

-- The outcome does not count against the pattern.
def Outcome.isFine (o : Outcome) : Bool :=
  o.counts? ≠ some false

namespace Expected

theorem judge_mustBeClean_isFine {verdict : Verdict} :
    (mustBeClean.judge verdict).outcome.isFine = true ↔ verdict = .clean := by
  cases verdict
  case inconclusive reason labels => cases labels <;> simp [judge, Outcome.isFine, Outcome.counts?]
  all_goals simp [judge, Outcome.isFine, Outcome.counts?]

theorem judge_mustDetect_isFine {verdict : Verdict} :
    (mustDetect.judge verdict).outcome.isFine = true ↔ ∃ labels, verdict = .defect labels := by
  cases verdict
  case inconclusive reason labels => cases labels <;> simp [judge, Outcome.isFine, Outcome.counts?]
  all_goals simp [judge, Outcome.isFine, Outcome.counts?]

theorem judge_notApplicable_isFine (verdict : Verdict) :
    (notApplicable.judge verdict).outcome.isFine = true := by
  cases verdict <;> rfl

end Expected

theorem Classifier.matchedLabels_eq_nil {signatures : List Signature} {output : String} :
    matchedLabels signatures output = [] ↔ ¬∃ s ∈ signatures, s.isMatch output = true := by
  simp [matchedLabels]

namespace Auditor.Bench

variable (b : Bench)

-- A known diagnostic of the tool, for this version of the compiler, is in the output.
def Diagnosed (tool : Tool) (reply : Reply) : Prop :=
  ∃ s ∈ b.classifier.applicable tool, s.isMatch reply.output = true

-- What the last run of a program has to be like, by what is expected of its source.
def Meets (tool : Tool) (reply : Reply) : Expected → Prop
  | .mustDetect => reply.timedOut = false ∧ b.Diagnosed tool reply
  | .mustBeClean => reply.exitedCleanly = true ∧ ¬b.Diagnosed tool reply
  | .notApplicable => True

variable {b} {i : Invocation} {reply : Reply}

theorem verdictOn_eq_clean_of_compiler (h : i.tool = .compiler) :
    b.verdictOn i reply = .clean ↔ reply.exitedCleanly = true := by
  rcases reply with ⟨code, output, _ | _⟩ <;>
    simp [verdictOn, Classifier.classify, Reply.toRun, Reply.exitedCleanly, h]

theorem verdictOn_building_eq_clean {number : Nat} {a : Artifact} {sanitizer : Option Tool} :
    b.verdictOn (b.building number a sanitizer) reply = .clean ↔ reply.exitedCleanly = true :=
  verdictOn_eq_clean_of_compiler rfl

theorem diagnosed_iff {tool : Tool} :
    b.Diagnosed tool reply ↔
      Classifier.matchedLabels (b.classifier.applicable tool) reply.output ≠ [] := by
  rw [Ne, Classifier.matchedLabels_eq_nil, Classical.not_not, Diagnosed]

theorem withoutDiagnostic_eq_clean {code : Option Int} :
    Classifier.withoutDiagnostic code = .clean ↔ code = some 0 := by
  rw [Classifier.withoutDiagnostic.eq_def]
  split <;> simp_all

-- The verdict on a run that is not one of the compiler, by its three possible reasons.
theorem verdictOn_eq (h : i.tool ≠ .compiler) (reply : Reply) :
    (reply.timedOut = true ∧ ∃ labels, b.verdictOn i reply = .inconclusive "timed out" labels) ∨
    (reply.timedOut = false ∧ ¬b.Diagnosed i.tool reply ∧
      b.verdictOn i reply = Classifier.withoutDiagnostic reply.exitCode) ∨
    (reply.timedOut = false ∧ b.Diagnosed i.tool reply ∧
      ∃ labels, b.verdictOn i reply = .defect labels) := by
  rw [diagnosed_iff]
  rcases reply with ⟨code, output, _ | _⟩
  case true => exact .inl ⟨rfl, _, by rw [verdictOn, Classifier.classify]; exact if_pos rfl⟩
  case false =>
    simp only [verdictOn, Classifier.classify, Reply.toRun, h, Bool.false_eq_true, if_false]
    rcases Classifier.matchedLabels (b.classifier.applicable i.tool) output with _ | ⟨label, rest⟩
    case nil => exact .inr <| .inl ⟨trivial, (· rfl), rfl⟩
    case cons => exact .inr <| .inr ⟨trivial, nofun, _, rfl⟩

theorem verdictOn_eq_clean (h : i.tool ≠ .compiler) :
    b.verdictOn i reply = .clean ↔ reply.exitedCleanly = true ∧ ¬b.Diagnosed i.tool reply := by
  simp only [Reply.exitedCleanly]
  rcases b.verdictOn_eq h reply with ⟨ht, _, hv⟩ | ⟨ht, hd, hv⟩ | ⟨ht, hd, _, hv⟩
  all_goals simp [withoutDiagnostic_eq_clean, *]

theorem exists_verdictOn_eq_defect (h : i.tool ≠ .compiler) :
    (∃ labels, b.verdictOn i reply = .defect labels) ↔
      reply.timedOut = false ∧ b.Diagnosed i.tool reply := by
  rcases b.verdictOn_eq h reply with ⟨ht, _, hv⟩ | ⟨ht, hd, hv⟩ | ⟨ht, hd, _, hv⟩
  case inl => simp [hv, ht]
  case inr.inl =>
    simp only [hv, hd, and_false, iff_false, Classifier.withoutDiagnostic.eq_def]
    split <;> simp
  case inr.inr => simp [hv, ht, hd]

theorem judge_isFine (h : i.tool ≠ .compiler) (expected : Expected) :
    (expected.judge (b.verdictOn i reply)).outcome.isFine = true ↔
      b.Meets i.tool reply expected := by
  cases expected
  case mustDetect => exact Expected.judge_mustDetect_isFine.trans <| exists_verdictOn_eq_defect h
  case mustBeClean => exact Expected.judge_mustBeClean_isFine.trans <| verdictOn_eq_clean h
  case notApplicable => simp [Meets, Expected.judge_notApplicable_isFine]

theorem tool_running (number : Nat) (a : Artifact) (tool : Tool) :
    (b.running number a tool).tool = tool := by
  rw [running, Toolchain.run]
  split <;> rfl

namespace RunRecords

variable {attempt left : Nat} {events : List Event} {r : Except Stop RunsEnd}

theorem about {number : Nat} (h : b.RunRecords i attempt left events r)
    (hi : b.Concerns number i) : b.About (· = number) events := by
  induction h
  case again hr => exact .cons rfl hi hr
  all_goals exact .cons rfl hi .nil

theorem answersTo_ne_nil (h : b.RunRecords i attempt left events r) : answersTo i events ≠ [] := by
  cases h <;> simp

theorem answersTo_of_ne {j : Invocation} (h : b.RunRecords i attempt left events r) (hj : i ≠ j) :
    answersTo j events = [] := by
  induction h
  case again hr => rw [answersTo_cons_of_ne hj, hr]
  all_goals rw [answersTo_cons_of_ne hj]; rfl

-- However often a program is run, the result is decided by its last run.
theorem isFine_iff {e : RunsEnd} (h : b.RunRecords i attempt left events (.ok e))
    (hi : i.tool ≠ .compiler) (tool : Tool) (expected : Expected) (attempts : Nat) :
    (runResult tool expected attempts e).outcome.isFine = true ↔
      ∃ reply, (answersTo i events).getLast? = some (.ran reply) ∧
        b.Meets i.tool reply expected := by
  generalize hr : Except.ok e = r at h
  induction h <;> cases hr
  case unstartable => simp [runResult, answersTo, Event.answerTo?, Outcome.isFine, Outcome.counts?]
  case last => simp [runResult, answersTo, Event.answerTo?, judge_isFine hi]
  case again hr hs =>
    rw [hs rfl, answersTo_cons_self, List.getLast?_cons_of_ne_nil hr.answersTo_ne_nil]

end RunRecords

variable (b) in
-- The output of a number was built without an error. A program that was built for a sanitizer has
-- also shown in its last run what is expected of its source.
def Made (events : List Event) (number : Nat) (s : Subject) : Option Tool → Prop
  | none => Succeeded events (b.building number s.artifact none)
  | some tool =>
    Succeeded events (b.building number s.artifact tool) ∧
      ∃ reply, (answersTo (b.running number s.artifact tool) events).getLast? = some (.ran reply) ∧
        b.Meets tool reply s.expected

variable {number : Nat} {s : Subject} {events events' : List Event} {r : CheckResult}

-- Only the answers to the invocations about the number matter.
theorem Made.congr {sanitizer : Option Tool}
    (h : ∀ i, b.Concerns number i → answersTo i events = answersTo i events') :
    b.Made events number s sanitizer ↔ b.Made events' number s sanitizer := by
  cases sanitizer
  case none => rw [Made, Made, Succeeded, Succeeded, h _ (.building ..)]
  case some => rw [Made, Made, Succeeded, Succeeded, h _ (.building ..), h _ (.running ..)]

theorem succeeded_singleton {reply : Reply} :
    Succeeded [.invoked i (.ran reply)] i ↔ reply.exitedCleanly = true := by
  simp [Succeeded, answersTo, Event.answerTo?]

theorem CompileRecords.about (h : b.CompileRecords number s events (.ok r)) :
    b.About (· = number) events := by
  cases h
  exact .cons rfl (.building ..) .nil

theorem CompileRecords.isFine_iff (h : b.CompileRecords number s events (.ok r))
    (hs : s.expected = .mustBeClean) :
    r.outcome.isFine = true ↔ b.Made events number s none := by
  cases h
  case judged reply =>
    rw [Made, succeeded_singleton, Judgement.named, hs, Expected.judge_mustBeClean_isFine]
    exact verdictOn_building_eq_clean

namespace SanitizeRecords

variable {tool : Tool}

theorem about (h : b.SanitizeRecords number s tool events (.ok r)) :
    b.About (· = number) events := by
  cases h
  case unbuilt => exact .cons rfl (.building ..) .nil
  case ended hr => exact .cons rfl (.building ..) (hr.about (.running ..))

theorem buildResult_not_isFine {verdict : Verdict} (h : verdict ≠ .clean) :
    (buildResult tool verdict).outcome.isFine = false := by
  cases verdict
  case clean => exact absurd rfl h
  all_goals rfl

theorem isFine_iff (h : b.SanitizeRecords number s tool events (.ok r)) (ht : tool ≠ .compiler) :
    r.outcome.isFine = true ↔ b.Made events number s (some tool) := by
  cases h
  case unbuilt reply hv =>
    have hc := mt verdictOn_building_eq_clean.2 hv
    rw [Judgement.named, buildResult_not_isFine hv, Made, succeeded_singleton]
    simp [hc]
  case ended reply events e hv hr =>
    have hb : Succeeded (.invoked (b.building number s.artifact tool) (.ran reply) :: events)
        (b.building number s.artifact tool) := by
      refine ⟨reply, ?_, verdictOn_building_eq_clean.1 hv⟩
      rw [answersTo_cons_self, hr.answersTo_of_ne building_ne_running.symm]
    have hi : (b.running number s.artifact tool).tool = tool := tool_running ..
    rw [Judgement.named, hr.isFine_iff (hi ▸ ht :), hi, Made,
      answersTo_cons_of_ne building_ne_running]
    simp [hb]

end SanitizeRecords

end Auditor.Bench
end CourseAudit
