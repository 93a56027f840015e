import CourseAudit.Proofs.FullPass
import CourseAudit.Proofs.Readings
import CourseAudit.Proofs.Stopping

/-!
How often a program is run that was built for a sanitizer. A race need not show in every run, so the
program is run again until an answer concludes the check or no attempt is left; the last answer
alone decides. Main statement: `Auditor.Bench.sanitize_attempts`.
-/
namespace CourseAudit

variable {σ : Type}

-- What a host answers that is asked the same again and again, from a state on.
def Host.answers (h : Host σ) (i : Invocation) : σ → Nat → Answer
  | s, 0 => (h.invoke i s).1
  | s, k + 1 => answers h i (h.invoke i s).2 k

namespace Auditor.Bench

-- After such an answer the program is not run again.
inductive Concludes (b : Bench) (i : Invocation) : Answer → Prop
  | found {reply : Reply} {labels : List String} :
    b.verdictOn i reply = .defect labels → Concludes b i (.ran reply)
  | timedOut {reply : Reply} : reply.timedOut = true → Concludes b i (.ran reply)
  | failed (f : ToolFailure) : Concludes b i (.failed f)
  | broke (message : Option String) : Concludes b i (.broke message)

-- Of `n` attempts, the one after `k` others is the last one: its answer is the first that
-- concludes, or there is no attempt left.
structure Runs (b : Bench) (i : Invocation) (answers : Nat → Answer) (n k : Nat) : Prop where
  within  : k < n
  earlier : ∀ j < k, ¬b.Concludes i (answers j)
  last    : b.Concludes i (answers k) ∨ k + 1 = n

-- What the last answer leads to. A machine that breaks down leaves no result.
inductive Recorded (b : Bench) (i : Invocation) (name : String) (expected : Expected)
    (note : String) : Answer → Except Stop (List CheckResult) → Prop
  | judged (reply : Reply) :
    Recorded b i name expected note (.ran reply)
      (.ok [⟨name, (expected.judge (b.verdictOn i reply)).outcome,
        (expected.judge (b.verdictOn i reply)).detail ++ note⟩])
  | unstartable (f : ToolFailure) (detail : String) :
    Recorded b i name expected note (.failed f) (.ok [⟨name, .inconclusive, detail⟩])
  | broke (message : Option String) :
    Recorded b i name expected note (.broke message) (.error (.breakdown message))

-- The same bench with another setting for how often a race is looked for.
def allowing (b : Bench) (attempts : UInt32) : Bench :=
  { b with auditor.config.raceDetectionAttempts := attempts }

section

variable {b : Bench} {i : Invocation} {answers : Nat → Answer}

theorem concludes_ran_iff {reply : Reply} :
    b.Concludes i (.ran reply) ↔ b.settles i reply = true := by
  rw [settles, Bool.or_eq_true]
  constructor
  case mp =>
    rintro (hv | ht)
    case found => exact .inl (by rw [hv]; rfl)
    case timedOut => exact .inr ht
  case mpr =>
    rintro (hd | ht)
    case inr => exact .timedOut ht
    case inl =>
      rcases hv : b.verdictOn i reply <;> rw [hv] at hd
      case defect => exact .found hv
      all_goals cases hd

namespace Runs

variable {n k : Nat}

theorem zero (h : b.Concludes i (answers 0) ∨ n = 0) : b.Runs i answers (n + 1) 0 :=
  ⟨n.succ_pos, nofun, h.imp_right fun h => by rw [h]⟩

-- An answer in front that does not conclude takes one more attempt.
theorem succ (hc : ¬b.Concludes i (answers 0)) (h : b.Runs i (fun j => answers (j + 1)) n k) :
    b.Runs i answers (n + 1) (k + 1) where
  within       := Nat.succ_lt_succ h.within
  earlier j hj := by
    cases j
    case zero => exact hc
    case succ j => exact h.earlier j (Nat.lt_of_succ_lt_succ hj)
  last         := h.last.imp_right (congrArg (· + 1))

-- Where an answer concludes, neither fewer nor more attempts make a difference.
theorem eq_of_concludes {n' k' : Nat} (h : b.Runs i answers n k) (h' : b.Runs i answers n' k')
    (hc : b.Concludes i (answers k)) (hn : n ≤ n') : k' = k := by
  have hw := h.within
  rcases Nat.lt_trichotomy k' k with hk | hk | hk
  case inl =>
    rcases h'.last with hc' | he
    case inl => exact (h.earlier k' hk hc').elim
    case inr => omega
  case inr.inl => exact hk
  case inr.inr => exact (h'.earlier k hk hc).elim

end Runs

-- How the runs end with an answer.
def endOf (b : Bench) (i : Invocation) (attempt : Nat) : Answer → Except Stop RunsEnd
  | .ran reply => .ok (.verdict (b.verdictOn i reply) attempt)
  | .failed f => .ok (.unstartable f)
  | .broke message => .error (.breakdown message)

variable {h : Host σ} {attempt left : Nat} {t : Session σ}

-- An attempt ends the runs if its answer concludes or no other one is left.
theorem runUntil_of_last (hl : b.Concludes i (h.invoke i t.host).1 ∨ left = 0) :
    b.runUntil h i attempt left t =
      (b.endOf i attempt (h.invoke i t.host).1,
        t.record (h.invoke i t.host).2 (.invoked i (h.invoke i t.host).1)) := by
  rcases ha : h.invoke i t.host with ⟨reply | f | message, host⟩ <;> rw [ha] at hl <;>
    cases left <;> rw [runUntil] <;> simp only [Audit.bind_apply, Audit.invoke, ha]
  case ran.succ =>
    have hs : b.settles i reply = true :=
      concludes_ran_iff.mp (hl.resolve_right (Nat.succ_ne_zero _))
    exact congrFun (if_pos hs) _
  all_goals rfl

-- Any other attempt leaves the rest to the next one.
theorem runUntil_of_again (hc : ¬b.Concludes i (h.invoke i t.host).1) :
    b.runUntil h i attempt (left + 1) t =
      b.runUntil h i (attempt + 1) left
        (t.record (h.invoke i t.host).2 (.invoked i (h.invoke i t.host).1)) := by
  rcases ha : h.invoke i t.host with ⟨reply | f | message, host⟩ <;> rw [ha] at hc
  case ran =>
    rw [runUntil]
    simp only [Audit.bind_apply, Audit.invoke, ha]
    exact congrFun (if_neg (mt concludes_ran_iff.mpr hc)) _
  case failed => exact (hc (.failed f)).elim
  case broke => exact (hc (.broke message)).elim

-- By induction on the number of attempts that are left after the next one.
theorem runUntil_runs (h : Host σ) (attempt left : Nat) (t : Session σ) :
    ∃ k u, b.Runs i (h.answers i t.host) (left + 1) k ∧
      b.runUntil h i attempt left t = (b.endOf i (attempt + k) (h.answers i t.host k), u) ∧
      u.journal = t.journal ++
        (List.range (k + 1)).map fun j => .invoked i (h.answers i t.host j) := by
  induction left generalizing attempt t
  case zero => exact ⟨0, _, .zero (.inr rfl), runUntil_of_last (.inr rfl), rfl⟩
  case succ left hi =>
    by_cases hc : b.Concludes i (h.invoke i t.host).1
    case pos => exact ⟨0, _, .zero (.inl hc), runUntil_of_last (.inl hc), rfl⟩
    case neg =>
      have ⟨k, u, hk, hr, hj⟩ := hi (attempt + 1)
        (t.record (h.invoke i t.host).2 (.invoked i (h.invoke i t.host).1))
      refine ⟨k + 1, u, .succ hc hk, ?_, ?_⟩
      · rw [runUntil_of_again hc, hr, Nat.add_right_comm, Nat.add_assoc]
        rfl
      · rw [hj, List.range_succ_eq_map (n := k + 1), List.map_cons, List.map_map]
        exact List.append_assoc ..

variable {number : Nat} {s : Subject} {tool : Tool} {build : Reply} {host : σ}

theorem attempts_pos (b : Bench) (tool : Tool) (expected : Expected) :
    0 < b.attempts tool expected := by
  rw [attempts]
  split <;> omega

-- A count of attempts is a word of the configuration, or it is one.
theorem attempts_lt_size (b : Bench) (tool : Tool) (expected : Expected) :
    b.attempts tool expected < UInt32.size := by
  have := b.config.raceDetectionAttempts.toNat_lt_size
  rw [attempts]
  split
  case isTrue => exact Nat.max_lt.mpr ⟨by decide, this⟩
  case isFalse => decide

theorem attempts_le_allowing {attempts : UInt32}
    (ha : b.config.raceDetectionAttempts ≤ attempts) (tool : Tool) (expected : Expected) :
    b.attempts tool expected ≤ (b.allowing attempts).attempts tool expected := by
  have ha : b.config.raceDetectionAttempts.toNat ≤ attempts.toNat := UInt32.le_iff_toNat_le.mp ha
  have hc : (b.allowing attempts).config.raceDetectionAttempts = attempts := rfl
  rw [Bench.attempts, Bench.attempts, hc]
  split <;> omega

-- A source that was built is run, and nothing else is asked for the check.
theorem sanitize_of_built
    (hb : h.invoke (b.building number s.artifact tool) t.host = (.ran build, host))
    (hc : b.verdictOn (b.building number s.artifact tool) build = .clean) :
    b.sanitize h number s tool t =
      (b.runUntil h (b.running number s.artifact tool) 1 (b.attempts tool s.expected - 1) >>=
        fun e => pure ((runResult tool s.expected (b.attempts tool s.expected) e).named
          (Step.checkName tool.shortName s.artifact)))
        (t.record host (.invoked (b.building number s.artifact tool) (.ran build))) := by
  have hi : invokeCompiler h (b.building number s.artifact tool) t =
      (.ok (build.toRun (b.building number s.artifact tool)),
        t.record host (.invoked (b.building number s.artifact tool) (.ran build))) := by
    rw [invokeCompiler_apply, hb]
  refine (Audit.bind_of_ok hi).trans ?_
  have hc : b.classifier.classify (build.toRun (b.building number s.artifact tool)) = .clean := hc
  dsimp only
  rw [hc]
  rfl

-- The last answer decides what becomes of the check.
theorem runStep_of_endOf {attempt : Nat} {answer : Answer} {u : Session σ}
    (hb : h.invoke (b.building number s.artifact tool) t.host = (.ran build, host))
    (hc : b.verdictOn (b.building number s.artifact tool) build = .clean)
    (hr : b.runUntil h (b.running number s.artifact tool) 1 (b.attempts tool s.expected - 1)
      (t.record host (.invoked (b.building number s.artifact tool) (.ran build))) =
        (b.endOf (b.running number s.artifact tool) attempt answer, u)) :
    ∃ r, b.runStep h number (.sanitize s tool) t = (r, u) ∧
      b.Recorded (b.running number s.artifact tool) (Step.checkName tool.shortName s.artifact)
        s.expected (attemptNote attempt (b.attempts tool s.expected)) answer r := by
  have hs := sanitize_of_built hb hc
  cases answer
  case ran reply =>
    exact ⟨_, Audit.bind_of_ok (hs.trans (Audit.bind_of_ok hr)), .judged reply⟩
  case failed f =>
    exact ⟨_, Audit.bind_of_ok (hs.trans (Audit.bind_of_ok hr)), .unstartable f _⟩
  case broke message =>
    exact ⟨_, Audit.bind_of_error (hs.trans (Audit.bind_of_error hr)), .broke message⟩

theorem runStep_runs
    (hb : h.invoke (b.building number s.artifact tool) t.host = (.ran build, host))
    (hc : b.verdictOn (b.building number s.artifact tool) build = .clean)
    (hi : i = b.running number s.artifact tool) :
    ∃ k r u, b.runStep h number (.sanitize s tool) t = (r, u) ∧
      b.Runs i (h.answers i host) (b.attempts tool s.expected) k ∧
      u.journal = t.journal ++ .invoked (b.building number s.artifact tool) (.ran build) ::
        (List.range (k + 1)).map (fun j => .invoked i (h.answers i host j)) ∧
      b.Recorded i (Step.checkName tool.shortName s.artifact) s.expected
        (attemptNote (k + 1) (b.attempts tool s.expected)) (h.answers i host k) r := by
  subst hi
  have hn : b.attempts tool s.expected - 1 + 1 = b.attempts tool s.expected :=
    Nat.sub_add_cancel (b.attempts_pos tool s.expected)
  have ⟨k, u, hk, hr, hj⟩ := b.runUntil_runs (i := b.running number s.artifact tool) h 1
    (b.attempts tool s.expected - 1)
    (t.record host (.invoked (b.building number s.artifact tool) (.ran build)))
  have ⟨r, hs, hr⟩ := runStep_of_endOf hb hc hr
  rw [hn] at hk
  rw [Nat.add_comm] at hr
  refine ⟨k, r, u, hs, hk, ?_, hr⟩
  rw [hj]
  exact List.append_assoc ..

theorem Recorded.passed {name note : String} {expected : Expected} {answer : Answer}
    {result : CheckResult} (hr : b.Recorded i name expected note answer (.ok [result]))
    (hp : result.outcome = .passed) :
    ∃ reply, answer = .ran reply ∧ (expected.judge (b.verdictOn i reply)).outcome = .passed := by
  cases hr
  case judged reply => exact ⟨reply, rfl, hp⟩
  case unstartable => cases hp

theorem Recorded.exists_of_ran {name note : String} {expected : Expected} {reply : Reply}
    {r : Except Stop (List CheckResult)} (hr : b.Recorded i name expected note (.ran reply) r) :
    ∃ result, r = .ok [result] ∧
      result.outcome = (expected.judge (b.verdictOn i reply)).outcome := by
  cases hr
  exact ⟨_, rfl, rfl⟩

-- How often a race is looked for has no say in what a run means.
theorem Runs.of_allowing {attempts : UInt32} {n k : Nat}
    (hk : (b.allowing attempts).Runs i answers n k) : b.Runs i answers n k := by
  have hc (answer : Answer) : (b.allowing attempts).Concludes i answer ↔ b.Concludes i answer := by
    cases answer
    case ran => rw [concludes_ran_iff, concludes_ran_iff]; rfl
    case failed f => exact iff_of_true (.failed f) (.failed f)
    case broke message => exact iff_of_true (.broke message) (.broke message)
  exact ⟨hk.within, fun j hj => mt (hc _).mpr (hk.earlier j hj), hk.last.imp_left (hc _).mp⟩

-- A run that lets a check pass is the last one whatever the number of attempts: it has found a
-- race, or no race is looked for and there is one attempt only.
theorem Runs.eq_of_passed {attempts : UInt32} {expected : Expected} {reply : Reply} {k k' : Nat}
    (ha : b.config.raceDetectionAttempts ≤ attempts)
    (hk : b.Runs i answers (b.attempts tool expected) k)
    (hk' : b.Runs i answers ((b.allowing attempts).attempts tool expected) k')
    (hr : answers k = .ran reply)
    (hp : (expected.judge (b.verdictOn i reply)).outcome = .passed) : k' = k := by
  rcases Expected.judge_passed_iff.mp hp with ⟨rfl, -⟩ | ⟨-, labels, hv⟩
  case inl =>
    have ho (b : Bench) : b.attempts tool .mustBeClean = 1 := if_neg nofun
    have hk := hk.within
    have hk' := hk'.within
    rw [ho] at hk hk'
    omega
  case inr =>
    have hc : b.Concludes i (answers k) := hr ▸ .found hv
    exact hk.eq_of_concludes hk' hc (attempts_le_allowing ha tool expected)

end

-- A check whose program was built, with `n` attempts: how often the program is run, what the
-- journal shows of it, and what becomes of the check.
structure Attempted (b : Bench) (h : Host σ) (number : Nat) (s : Subject) (tool : Tool)
    (t : Session σ) (build : Reply) (host : σ) (i : Invocation) (n k : Nat)
    (r : Except Stop (List CheckResult)) (u : Session σ) : Prop where
  runs     : b.Runs i (h.answers i host) n k
  -- The number of the last attempt still fits into a word.
  counted  : k + 1 < UInt32.size
  journal  : u.journal = t.journal ++ .invoked (b.building number s.artifact tool) (.ran build) ::
    (List.range (k + 1)).map (fun j => .invoked i (h.answers i host j))
  recorded : b.Recorded i (Step.checkName tool.shortName s.artifact) s.expected
    (if 1 < n then " (attempt " ++ toString (k + 1) ++ " of " ++ toString n ++ ")" else "")
    (h.answers i host k) r
  -- More attempts do not spoil what has passed.
  steady   : ∀ attempts, b.config.raceDetectionAttempts ≤ attempts →
    ∀ result, r = .ok [result] → result.outcome = .passed →
      ∃ result' u', (b.allowing attempts).runStep h number (.sanitize s tool) t =
        (.ok [result'], u') ∧ result'.outcome = .passed

-- The program is run up to the first answer that concludes or the last attempt, and that answer is
-- recorded.
theorem sanitize_attempts {b : Bench} {h : Host σ} {number : Nat} {s : Subject} {tool : Tool}
    {t : Session σ} {build : Reply} {host : σ} {n : Nat}
    (hb : h.invoke (b.building number s.artifact tool) t.host = (.ran build, host))
    (hc : b.verdictOn (b.building number s.artifact tool) build = .clean)
    (hn : n = if tool = .threadSanitizer ∧ s.expected = .mustDetect then
        max 1 b.config.raceDetectionAttempts.toNat
      else 1) :
    ∃ k r u, b.runStep h number (.sanitize s tool) t = (r, u) ∧
      b.Attempted h number s tool t build host (b.running number s.artifact tool) n k r u := by
  have hn : n = b.attempts tool s.expected := hn
  subst hn
  have ⟨k, r, u, hs, hk, hj, hr⟩ := runStep_runs hb hc rfl
  refine ⟨k, r, u, hs, hk, ?_, hj, hr, ?_⟩
  case refine_1 => exact Nat.lt_of_le_of_lt hk.within (b.attempts_lt_size tool s.expected)
  case refine_2 =>
    rintro attempts ha result rfl hp
    have ⟨reply, hv, hp⟩ := hr.passed hp
    have ⟨k', r', u', hs', hk', _, hr'⟩ := runStep_runs (b := b.allowing attempts)
      (i := b.running number s.artifact tool) hb hc rfl
    have he : k' = k := hk.eq_of_passed ha hk'.of_allowing hv hp
    rw [he, hv] at hr'
    have ⟨result', he, ho⟩ := hr'.exists_of_ran
    exact ⟨result', u', by rw [hs', he], ho.trans hp⟩

end Auditor.Bench

namespace Sample

-- A race is looked for up to three times.
def patientBench : Auditor.Bench :=
  Auditor.Bench.allowing ⟨auditor, none, ⟨"/tmp/build"⟩⟩ 3

def racingSubject : Subject :=
  ⟨⟨.vulnerable, directory.join "queue_vulnerabilities.cpp"⟩, .mustDetect⟩

def raceAnswers : Nat → Answer :=
  scriptedHost.answers (patientBench.running 1 racingSubject.artifact .threadSanitizer)
    ["", "data race"]

theorem raceAnswers_runs :
    patientBench.Runs (patientBench.running 1 racingSubject.artifact .threadSanitizer)
      raceAnswers 3 1 where
  within       := by decide
  earlier j hj := by
    cases Nat.lt_one_iff.mp hj
    exact mt Auditor.Bench.concludes_ran_iff.mp (by decide +kernel)
  last         := .inl <| Auditor.Bench.concludes_ran_iff.mpr (by decide +kernel)

-- The first run shows nothing, and there is no third one.
theorem race_found_in_second_run :
    ∃ result u, patientBench.runStep scriptedHost 1 (.sanitize racingSubject .threadSanitizer)
        (.initial ["", "data race"]) = (.ok [result], u) ∧
      result.outcome = .passed ∧ u.journal.length = 3 := by
  have hb : scriptedHost.invoke
      (patientBench.building 1 racingSubject.artifact (some .threadSanitizer))
      (Session.initial ["", "data race"]).host = (.ran ⟨some 0, "", false⟩, ["", "data race"]) :=
    rfl
  have ⟨k, r, u, hs, ha⟩ := Auditor.Bench.sanitize_attempts (s := racingSubject) hb
    (by decide +kernel) rfl
  have hk : k = 1 := raceAnswers_runs.eq_of_concludes ha.runs
    (Auditor.Bench.concludes_ran_iff.mpr (by decide +kernel)) (Nat.le_refl 3)
  subst hk
  have ⟨result, hr, ho⟩ := ha.recorded.exists_of_ran
  refine ⟨result, u, by rw [hs, hr], ho.trans (by decide +kernel), ?_⟩
  rw [ha.journal]
  rfl

end Sample
end CourseAudit
