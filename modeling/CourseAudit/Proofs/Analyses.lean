import CourseAudit.Proofs.FullPass
import CourseAudit.Proofs.Missing

/-!
Which checks by analyzers are not made because an analyzer is missing. It may be missing from the
start, or be gone when it is invoked. Exchanges tell of both, and they are counted check by check.
Main statement: `Auditor.ValidateRecords.cases_of_unmade`.
-/
namespace CourseAudit

open Report (isMissingAnalyzer)

-- If every exchange tells whose it is, what somebody has to do with all exchanges is what he has to
-- do with his own.
theorem Audit.InTurn.total_eq_of_owned {ι γ : Type} {P : ι → List Event → Except Stop γ → Prop}
    {owns : ι → Event → Bool} {count : γ → Nat} {value : ι → List Event → Nat} {items : List ι}
    {events : List Event} {results : List γ} (h : InTurn P items events (.ok results))
    (hd : items.Pairwise fun i j => ∀ e, owns i e = true → owns j e = false)
    (ho : ∀ i ∈ items, ∀ events r, P i events r → ∀ e ∈ events, owns i e = true)
    (hv : ∀ i ∈ items, ∀ events c, P i events (.ok c) → count c = value i events) :
    total count results = total (fun i => value i (events.filter (owns i))) items := by
  induction items generalizing events results <;> cases h
  case nil => rfl
  case cons i items hi events later c results hc ht =>
    have ⟨hd, hds⟩ := List.pairwise_cons.mp hd
    have ⟨ho, hos⟩ := List.forall_mem_cons.mp ho
    have ⟨hv, hvs⟩ := List.forall_mem_cons.mp hv
    have he := ho _ _ hc
    have hl : ∀ e ∈ later, ∃ j ∈ items, owns j e = true :=
      ht.forall_mem fun j hj events r h e he => ⟨j, hj, hos j hj events r h e he⟩
    have hs : (events ++ later).filter (owns i) = events := by
      rw [List.filter_append, List.filter_eq_self.mpr he, List.filter_eq_nil_iff.mpr ?_,
        List.append_nil]
      intro e hm hi
      obtain ⟨j, hj, hje⟩ := hl e hm
      rw [hd j hj e hi] at hje
      cases hje
    have hr : ∀ j ∈ items, (events ++ later).filter (owns j) = later.filter (owns j) := by
      intro j hj
      rw [List.filter_append, List.filter_eq_nil_iff.mpr ?_, List.nil_append]
      intro e hm
      rw [hd j hj e (he e hm)]
      exact Bool.false_ne_true
    have hw : total (fun j => value j ((events ++ later).filter (owns j))) items =
        total (fun j => value j (later.filter (owns j))) items :=
      total_congr fun j hj => congrArg (value j) (hr j hj)
    rw [total_cons, total_cons, hs, hw, ← hi ht hds hos hvs, hv _ _ hc]

namespace Event

def invokes (i : Invocation) : Event → Bool
  | .invoked j _ => j = i
  | _ => false

-- Whether the exchange is about an analyzer.
def isAbout (analyzer : String) : Event → Bool
  | .asked program _ => program = analyzer
  | .invoked i _ => i.tool = .analyzer analyzer
  | _ => false

theorem any_filter_of_imp {p q : Event → Bool} {events : List Event}
    (h : ∀ e ∈ events, q e = true → p e = true) : (events.filter p).any q = events.any q := by
  rw [List.any_filter, Bool.eq_iff_iff, List.any_eq_true, List.any_eq_true]
  refine exists_congr fun e => and_congr_right fun he => ?_
  rw [Bool.and_eq_true]
  exact and_iff_right_of_imp (h e he)

end Event

namespace Step

-- Whether the exchange belongs to the step. Only analyzers are told apart.
def owns : Step → Event → Bool
  | .analyze analyzer _, e => e.isAbout analyzer
  | _, _ => false

theorem map_snd_numbered (number : Nat) (steps : List Step) :
    (numbered number steps).map (·.2) = steps := by
  induction steps generalizing number
  case nil => rfl
  case cons step rest hi => rw [numbered, List.map_cons, hi]

end Step

theorem Event.isAbout_eq_false {analyzer other : String} {e : Event} (hn : analyzer ≠ other)
    (h : e.isAbout analyzer = true) : e.isAbout other = false := by
  cases e
  case asked program available =>
    obtain rfl := of_decide_eq_true h
    exact decide_eq_false hn
  case invoked i answer =>
    have hi : i.tool = .analyzer analyzer := of_decide_eq_true h
    exact decide_eq_false fun ho => hn (Tool.analyzer.inj (hi.symm.trans ho))
  all_goals rfl

namespace Auditor

variable (v : Auditor)

-- The checks by analyzers that the contract asks for.
def analyses (sources : List Artifact) : List (String × Artifact) :=
  v.config.staticAnalyzers.flatMap fun analyzer =>
    (v.subjects (.analyzer analyzer) sources).map fun s => (analyzer, s.artifact)

-- Whether an exchange is the reason why a source was not read by an analyzer.
def hinders (analyzer : String) (a : Artifact) : Event → Bool
  | .asked program false => program = analyzer
  | .invoked i (.failed (.notFound _)) => i = Toolchain.analyze v.config analyzer a.path
  | _ => false

-- How many checks of a step were not made for such a reason.
def hindered (events : List Event) : Step → Nat
  | .analyze analyzer subjects =>
    subjects.countP fun s => events.any (v.hinders analyzer s.artifact)
  | _ => 0

-- The checks that were not made because the analyzer was not there, or was gone when it was needed.
def unmade (sources : List Artifact) (events : List Event) : List (String × Artifact) :=
  (v.analyses sources).filter fun (analyzer, a) => events.any (v.hinders analyzer a)

variable {v} in
theorem eq_analyze_of_hinders {analyzer : String} {a : Artifact} {i : Invocation} {answer : Answer}
    (h : v.hinders analyzer a (.invoked i answer) = true) :
    i = Toolchain.analyze v.config analyzer a.path := by
  rcases answer with reply | f | message
  case failed =>
    cases f
    case notFound => exact of_decide_eq_true h
    all_goals cases h
  all_goals cases h

variable {v} in
theorem isAbout_of_hinders {analyzer : String} {a : Artifact} {e : Event}
    (h : v.hinders analyzer a e = true) : e.isAbout analyzer = true := by
  cases e
  case asked program available =>
    cases available
    case false => exact h
    case true => cases h
  case invoked i answer =>
    rw [eq_analyze_of_hinders h]
    exact decide_eq_true rfl
  all_goals cases h

namespace Bench

variable {b : Bench} {number : Nat} {events later : List Event} {sources : List Artifact}
variable {analyzer : String} {a : Artifact}

theorem analyzing_path_inj {a' : Artifact} (h : b.analyzing analyzer a = b.analyzing analyzer a') :
    a.path = a'.path := by
  have hs : Toolchain.analyzerArgs b.config analyzer a.path =
      Toolchain.analyzerArgs b.config analyzer a'.path := congrArg Invocation.args h
  have ht : a.path.text = a'.path.text := by
    rw [Toolchain.analyzerArgs.eq_def, Toolchain.analyzerArgs.eq_def] at hs
    split at hs
    all_goals simpa using hs
  exact congrArg Path.mk ht

theorem AnalyzeRecords.isMissingAnalyzer_eq {s : Subject} {r : CheckResult}
    (h : b.AnalyzeRecords analyzer s true events (.ok r)) :
    isMissingAnalyzer r = events.any (b.auditor.hinders analyzer s.artifact) := by
  have hg (program : String) : b.auditor.hinders analyzer s.artifact
      (.invoked (b.analyzing analyzer s.artifact) (.failed (.notFound program))) = true :=
    decide_eq_true rfl
  cases h
  case judged => exact Expected.isMissingAnalyzer_judge ..
  case gone => rw [isMissingAnalyzer_notInstalled, List.any_cons, hg, Bool.true_or]
  case failed f hf =>
    cases f
    case notFound program => exact absurd rfl (hf program)
    all_goals rfl

-- An analyzer that is there reads its sources one by one, each of which has an invocation of its
-- own.
theorem inTurn_missing_of_available {subjects : List Subject} {results : List CheckResult}
    (hn : (subjects.map (·.artifact.path)).Nodup)
    (h : Audit.InTurn (b.AnalyzeRecords analyzer · true) subjects events (.ok results)) :
    results.countP isMissingAnalyzer =
      subjects.countP fun s => events.any (b.auditor.hinders analyzer s.artifact) := by
  have hd : subjects.Pairwise fun s t => ∀ e : Event,
      e.invokes (b.analyzing analyzer s.artifact) = true →
      e.invokes (b.analyzing analyzer t.artifact) = false := by
    refine (List.pairwise_map.mp hn).imp fun {s t} hne e he => ?_
    cases e
    case invoked i answer =>
      obtain rfl := of_decide_eq_true he
      exact decide_eq_false fun hi => hne (analyzing_path_inj hi)
    all_goals rfl
  have ho : ∀ s ∈ subjects, ∀ events r, b.AnalyzeRecords analyzer s true events r →
      ∀ e ∈ events, e.invokes (b.analyzing analyzer s.artifact) = true := by
    intro s _ events r h
    cases h <;> exact List.forall_mem_singleton.mpr (decide_eq_true rfl)
  have hv : ∀ s ∈ subjects, ∀ events r, b.AnalyzeRecords analyzer s true events (.ok r) →
      (isMissingAnalyzer r).toNat =
        (events.any (b.auditor.hinders analyzer s.artifact)).toNat := by
    intro s _ events r h
    rw [h.isMissingAnalyzer_eq]
  have hw : ∀ s ∈ subjects,
      (events.filter (·.invokes (b.analyzing analyzer s.artifact))).any
        (b.auditor.hinders analyzer s.artifact) =
      events.any (b.auditor.hinders analyzer s.artifact) := by
    intro s _
    refine Event.any_filter_of_imp fun e he hh => ?_
    obtain ⟨i, answer, rfl, -⟩ := h.forall_mem (fun s _ _ _ h => h.exists_analyzing) e he
    exact decide_eq_true (eq_analyze_of_hinders hh)
  rw [countP_eq_total, countP_eq_total, h.total_eq_of_owned hd ho hv]
  exact total_congr fun s hs => congrArg Bool.toNat (hw s hs)

-- A check was not made because of a missing analyzer if and only if its result says so.
theorem StepRecords.missing_of_analyze {results : List CheckResult}
    (hn : (sources.map (·.path)).Nodup)
    (h : b.StepRecords number (b.auditor.analyzeStep sources analyzer) events (.ok results)) :
    results.countP isMissingAnalyzer =
      (b.auditor.subjects (.analyzer analyzer) sources).countP fun s =>
        events.any (b.auditor.hinders analyzer s.artifact) := by
  have hs : (((b.auditor.subjects (.analyzer analyzer) sources)).map (·.artifact.path)).Nodup := by
    have hm : (sources.map (b.auditor.subject (.analyzer analyzer))).map (·.artifact.path) =
        sources.map (·.path) := List.map_map
    exact (hm ▸ hn).sublist (List.filter_sublist.map _)
  cases h
  case analyze events available h =>
    cases available
    case false =>
      have ha (a : Artifact) : b.auditor.hinders analyzer a (.asked analyzer false) = true :=
        decide_eq_true rfl
      simp only [List.any_cons, ha, Bool.true_or, List.countP_true]
      exact (inTurn_missing_of_unavailable h).1
    case true =>
      have ha (a : Artifact) : b.auditor.hinders analyzer a (.asked analyzer true) = false := rfl
      simp only [List.any_cons, ha, Bool.false_or]
      exact inTurn_missing_of_available hs h

theorem StepRecords.isAbout_of_analyze {subjects : List Subject}
    {r : Except Stop (List CheckResult)}
    (h : b.StepRecords number (.analyze analyzer subjects) events r) :
    ∀ e ∈ events, e.isAbout analyzer = true := by
  cases h
  case analyze available h =>
    refine List.forall_mem_cons.mpr ⟨decide_eq_true rfl, fun e he => ?_⟩
    obtain ⟨i, answer, rfl, hi⟩ := h.forall_mem (fun s _ _ _ h => h.exists_analyzing) e he
    exact decide_eq_true hi

-- Analyzers are invoked one after the other, and the exchanges about one of them tell nothing about
-- the others.
theorem missing_of_inTurn_analyze {analyzers : List String} {parts : List (List CheckResult)}
    (ha : analyzers.Nodup) (hn : (sources.map (·.path)).Nodup)
    (h : Audit.InTurn (fun p => b.StepRecords p.1 p.2)
      (Step.numbered number (analyzers.map (b.auditor.analyzeStep sources))) events (.ok parts)) :
    parts.flatten.countP isMissingAnalyzer =
      total (fun analyzer => (b.auditor.subjects (.analyzer analyzer) sources).countP fun s =>
        events.any (b.auditor.hinders analyzer s.artifact)) analyzers := by
  have hm {p : Nat × Step}
      (hp : p ∈ Step.numbered number (analyzers.map (b.auditor.analyzeStep sources))) :
      ∃ analyzer, b.auditor.analyzeStep sources analyzer = p.2 := by
    obtain ⟨analyzer, -, hp⟩ := List.mem_map.mp (Step.mem_of_mem_numbered hp)
    exact ⟨analyzer, hp⟩
  have hd : (Step.numbered number (analyzers.map (b.auditor.analyzeStep sources))).Pairwise
      fun p q => ∀ e, p.2.owns e = true → q.2.owns e = false := by
    have hd : (analyzers.map (b.auditor.analyzeStep sources)).Pairwise
        fun s t => ∀ e, s.owns e = true → t.owns e = false :=
      List.pairwise_map.mpr <| ha.imp fun hne e he => e.isAbout_eq_false hne he
    rw [← Step.map_snd_numbered number (analyzers.map _)] at hd
    exact List.pairwise_map.mp hd
  have ho : ∀ p ∈ Step.numbered number (analyzers.map (b.auditor.analyzeStep sources)),
      ∀ events r, b.StepRecords p.1 p.2 events r → ∀ e ∈ events, p.2.owns e = true := by
    rintro ⟨n, step⟩ hp events r h
    obtain ⟨analyzer, rfl⟩ := hm hp
    exact h.isAbout_of_analyze
  have hv : ∀ p ∈ Step.numbered number (analyzers.map (b.auditor.analyzeStep sources)),
      ∀ events results, b.StepRecords p.1 p.2 events (.ok results) →
        results.countP isMissingAnalyzer = b.auditor.hindered events p.2 := by
    rintro ⟨n, step⟩ hp events results h
    obtain ⟨analyzer, rfl⟩ := hm hp
    exact h.missing_of_analyze hn
  have ht := Report.total_map (fun step => b.auditor.hindered (events.filter step.owns) step)
    Prod.snd (Step.numbered number (analyzers.map (b.auditor.analyzeStep sources)))
  rw [Step.map_snd_numbered, Report.total_map] at ht
  rw [countP_flatten_eq_total, h.total_eq_of_owned hd ho hv, ← ht]
  refine total_congr fun analyzer _ => List.countP_congr fun s _ => ?_
  have hf : (events.filter (·.isAbout analyzer)).any (b.auditor.hinders analyzer s.artifact) =
      events.any (b.auditor.hinders analyzer s.artifact) :=
    Event.any_filter_of_imp fun e _ => isAbout_of_hinders
  rw [← hf]
  rfl

-- All steps but those of analyzers invoke other tools only.
theorem StepRecords.not_mishap {step : Step} {r : Except Stop (List CheckResult)}
    (h : b.StepRecords number step events r) (hp : step.IsPlanned)
    (ha : ∀ analyzer subjects, step ≠ .analyze analyzer subjects) :
    ∀ e ∈ events, e.isMishap = false := by
  cases h
  case compile h => exact h.not_mishap
  case compileStopped h => exact h.not_mishap
  case skipCompile => exact List.forall_mem_nil _
  case sanitize h => exact h.not_mishap hp
  case sanitizeStopped h => exact h.not_mishap hp
  case review => exact List.forall_mem_nil _
  case analyze => exact absurd rfl (ha _ _)

end Bench

variable {v} {sources : List Artifact} {events later : List Event} {module : String} {mode : Mode}

theorem ne_analyze_of_mem_regularSteps :
    ∀ step ∈ v.regularSteps module sources, ∀ analyzer subjects,
      step ≠ .analyze analyzer subjects := by
  intro step h analyzer subjects
  rcases List.mem_append.mp h with h | h
  case inl =>
    obtain ⟨a, -, rfl⟩ := List.mem_map.mp h
    rw [compileStep]
    split <;> exact Step.noConfusion
  case inr =>
    obtain ⟨a, -, h⟩ := List.mem_flatMap.mp h
    rcases List.mem_append.mp h with h | h
    case inl =>
      obtain ⟨p, -, rfl⟩ := List.mem_map.mp h
      exact Step.noConfusion
    case inr =>
      split at h
      case isTrue =>
        obtain rfl := List.mem_singleton.mp h
        exact Step.noConfusion
      case isFalse => cases h

theorem steps_full_eq : v.steps .full module sources =
    v.regularSteps module sources ++ v.config.staticAnalyzers.map (v.analyzeStep sources) := by
  rw [steps, fullSteps, regularSteps, List.append_assoc]

theorem mem_analyses {analyzer : String} {a : Artifact} :
    (analyzer, a) ∈ v.analyses sources ↔ analyzer ∈ v.config.staticAnalyzers ∧
      a ∈ sources ∧ v.contract.expected a.role (.analyzer analyzer) ≠ .notApplicable := by
  simp [analyses, subjects, subject]

theorem mem_unmade {analyzer : String} {a : Artifact} :
    (analyzer, a) ∈ v.unmade sources events ↔
      (analyzer, a) ∈ v.analyses sources ∧ ∃ e ∈ events, v.hinders analyzer a e = true := by
  rw [unmade, List.mem_filter, List.any_eq_true]

theorem length_unmade : (v.unmade sources events).length =
    total (fun analyzer => (v.subjects (.analyzer analyzer) sources).countP fun s =>
      events.any (v.hinders analyzer s.artifact)) v.config.staticAnalyzers := by
  rw [unmade, ← List.countP_eq_length_filter, analyses, List.flatMap_def, countP_flatten_eq_total,
    Report.total_map]
  exact total_congr fun analyzer _ => List.countP_map

theorem hinders_eq_false {e : Event} (h : e.isMishap = false) (analyzer : String) (a : Artifact) :
    v.hinders analyzer a e = false := by
  refine Bool.eq_false_iff.mpr fun hh => ?_
  cases e
  case asked program available =>
    cases available
    case false => cases h
    case true => cases hh
  case invoked i answer =>
    obtain rfl := eq_analyze_of_hinders hh
    rcases answer with reply | f | message
    case failed =>
      cases f
      case notFound => exact Bool.noConfusion (show true = false from h)
      all_goals cases hh
    all_goals cases hh
  all_goals cases hh

-- Only mishaps count.
theorem unmade_append_left (h : ∀ e ∈ events, e.isMishap = false) (sources : List Artifact) :
    v.unmade sources (events ++ later) = v.unmade sources later := by
  refine List.filter_congr fun ⟨analyzer, a⟩ _ => ?_
  dsimp only
  have hn : events.any (v.hinders analyzer a) = false :=
    List.any_eq_false.mpr fun e he => Bool.eq_false_iff.mp (hinders_eq_false (h e he) ..)
  rw [List.any_append, hn, Bool.false_or]

theorem unmade_append_right (h : ∀ e ∈ later, e.isMishap = false) (sources : List Artifact) :
    v.unmade sources (events ++ later) = v.unmade sources events := by
  refine List.filter_congr fun ⟨analyzer, a⟩ _ => ?_
  dsimp only
  have hn : later.any (v.hinders analyzer a) = false :=
    List.any_eq_false.mpr fun e he => Bool.eq_false_iff.mp (hinders_eq_false (h e he) ..)
  rw [List.any_append, hn, Bool.or_false]

theorem unmade_eq_nil (h : ∀ e ∈ events, e.isMishap = false) (sources : List Artifact) :
    v.unmade sources events = [] := by
  refine List.filter_eq_nil_iff.mpr fun p _ => Bool.eq_false_iff.mp ?_
  exact List.any_eq_false.mpr fun e he => Bool.eq_false_iff.mp (hinders_eq_false (h e he) ..)

section

variable {b : Bench} {number : Nat}

theorem Bench.StepsRecord.not_mishap {steps : List Step} {results : List CheckResult}
    (h : b.StepsRecord number steps events (.ok results)) (hp : ∀ step ∈ steps, step.IsPlanned)
    (ha : ∀ step ∈ steps, ∀ analyzer subjects, step ≠ .analyze analyzer subjects) :
    ∀ e ∈ events, e.isMishap = false := by
  obtain ⟨parts, h, -⟩ := h
  refine h.forall_mem fun p hm _ _ h => ?_
  have hm := Step.mem_of_mem_numbered hm
  exact h.not_mishap (hp _ hm) (ha _ hm)

-- A plan is carried out in two parts, and only in the second one are there analyzers.
theorem Bench.StepsRecord.length_unmade {results : List CheckResult}
    (ha : b.auditor.config.staticAnalyzers.Nodup) (hn : (sources.map (·.path)).Nodup)
    (h : b.StepsRecord 1 (b.auditor.steps mode module sources) events (.ok results)) :
    (b.auditor.unmade sources events).length = results.countP isMissingAnalyzer := by
  have hp : ∀ step ∈ b.auditor.steps mode module sources, step.IsPlanned :=
    fun _ => isPlanned_of_mem_steps
  have hr : ∀ step ∈ b.auditor.steps mode module sources, b.auditor.Reads sources step :=
    fun _ => reads_of_mem_steps
  have hm := h.missing hp hr
  cases mode
  case quick =>
    have hq : ∀ step ∈ b.auditor.quickSteps sources, ∀ analyzer subjects,
        step ≠ .analyze analyzer subjects :=
      fun step hs => @ne_analyze_of_mem_regularSteps b.auditor sources module step
        (List.mem_append_left _ hs)
    have he := h.not_mishap hp hq
    rw [unmade_eq_nil he, hm, total_withheld_eq_zero he]
    rfl
  case full =>
    obtain ⟨parts, h, rfl⟩ := h
    rw [steps_full_eq] at h hp hr
    obtain ⟨next, hx⟩ := Step.exists_numbered_append 1 (b.auditor.regularSteps module sources)
      (b.auditor.config.staticAnalyzers.map (b.auditor.analyzeStep sources))
    rw [hx] at h
    obtain ⟨before, behind, done, rest, rfl, rfl, hb, hl⟩ := h.of_append
    have hb : b.StepsRecord 1 (b.auditor.regularSteps module sources) before (.ok done.flatten) :=
      ⟨done, hb, rfl⟩
    have hpb : ∀ step ∈ b.auditor.regularSteps module sources, step.IsPlanned :=
      fun step hs => hp step (List.mem_append_left _ hs)
    have he := hb.not_mishap hpb ne_analyze_of_mem_regularSteps
    have hd := hb.missing hpb fun step hs => hr step (List.mem_append_left _ hs)
    rw [unmade_append_left he, Auditor.length_unmade, List.flatten_append, List.countP_append, hd,
      total_withheld_eq_zero he, Nat.zero_add]
    exact (missing_of_inTurn_analyze ha hn hl).symm

theorem Bench.AnalyzeRecords.hinders_of_withheld {analyzer : String} {s : Subject}
    {available : Bool} {r : Except Stop CheckResult}
    (h : b.AnalyzeRecords analyzer s available events r) :
    ∀ e ∈ events, 0 < b.auditor.withheld sources e →
      b.auditor.hinders analyzer s.artifact e = true := by
  cases h
  case unavailable => exact fun _ he => nomatch he
  case judged => exact List.forall_mem_singleton.mpr fun hw => nomatch hw
  case gone => exact List.forall_mem_singleton.mpr fun _ => decide_eq_true rfl
  case failed f hf =>
    cases f
    case notFound program => exact absurd rfl (hf program)
    all_goals exact List.forall_mem_singleton.mpr fun hw => nomatch hw
  case broke => exact List.forall_mem_singleton.mpr fun hw => nomatch hw

-- What keeps checks from being made in a step keeps one of the pattern from being made.
theorem Bench.StepRecords.exists_hinders {step : Step} {r : Except Stop (List CheckResult)}
    (h : b.StepRecords number step events r) (hp : step.IsPlanned)
    (hr : b.auditor.Reads sources step) :
    ∀ e ∈ events, 0 < b.auditor.withheld sources e →
      ∃ analyzer a, (analyzer, a) ∈ b.auditor.analyses sources ∧
        b.auditor.hinders analyzer a e = true := by
  have hn (he : ∀ e ∈ events, e.isMishap = false) :
      ∀ e ∈ events, 0 < b.auditor.withheld sources e →
        ∃ analyzer a, (analyzer, a) ∈ b.auditor.analyses sources ∧
          b.auditor.hinders analyzer a e = true :=
    fun e hm hw => absurd (withheld_eq_zero (he e hm) sources) (Nat.ne_of_gt hw)
  cases step
  case analyze analyzer subjects =>
    obtain ⟨hm, rfl⟩ := hr
    have ha {s : Subject} (hs : s ∈ b.auditor.subjects (.analyzer analyzer) sources) :
        (analyzer, s.artifact) ∈ b.auditor.analyses sources :=
      List.mem_flatMap.mpr ⟨analyzer, hm, List.mem_map_of_mem hs⟩
    cases h
    case analyze events available h =>
      refine List.forall_mem_cons.mpr ⟨fun hw => ?_, h.forall_mem fun s hs _ _ h e he hw => ?_⟩
      case refine_1 =>
        cases available
        case false =>
          have ⟨s, hs⟩ := List.exists_mem_of_length_pos hw
          exact ⟨analyzer, s.artifact, ha hs, decide_eq_true rfl⟩
        case true => cases hw
      case refine_2 =>
        exact ⟨analyzer, s.artifact, ha hs, h.hinders_of_withheld e he hw⟩
  all_goals exact hn (h.not_mishap hp fun _ _ => nofun)

theorem withheld_pos_of_hinders {analyzer : String} {a : Artifact} {e : Event}
    (ha : (analyzer, a) ∈ v.analyses sources) (h : v.hinders analyzer a e = true) :
    0 < v.withheld sources e := by
  cases e
  case asked program available =>
    cases available
    case false =>
      obtain rfl : program = analyzer := of_decide_eq_true h
      obtain ⟨-, ha, he⟩ := mem_analyses.mp ha
      refine List.length_pos_of_mem (a := v.subject (.analyzer program) a) ?_
      exact List.mem_filter.mpr ⟨List.mem_map_of_mem ha, decide_eq_true he⟩
    case true => cases h
  case invoked i answer =>
    obtain rfl := eq_analyze_of_hinders h
    rcases answer with reply | f | message
    case failed =>
      cases f
      case notFound => exact Nat.one_pos
      all_goals cases h
    all_goals cases h
  all_goals cases h

theorem Bench.StepsRecord.withheld_pos_iff {results : List CheckResult}
    (h : b.StepsRecord number (b.auditor.steps mode module sources) events (.ok results)) :
    0 < total (b.auditor.withheld sources) events ↔ b.auditor.unmade sources events ≠ [] := by
  rw [total_pos_iff, ne_eq, List.eq_nil_iff_forall_not_mem, not_forall_not]
  constructor
  case mp =>
    rintro ⟨e, he, hw⟩
    obtain ⟨parts, h, -⟩ := h
    obtain ⟨analyzer, a, ha, hh⟩ := h.forall_mem (fun p hm _ _ h =>
      have hm := Step.mem_of_mem_numbered hm
      h.exists_hinders (isPlanned_of_mem_steps hm) (reads_of_mem_steps hm)) e he hw
    exact ⟨(analyzer, a), mem_unmade.mpr ⟨ha, e, he, hh⟩⟩
  case mpr =>
    rintro ⟨⟨analyzer, a⟩, hu⟩
    obtain ⟨ha, e, he, hh⟩ := mem_unmade.mp hu
    exact ⟨e, he, withheld_pos_of_hinders ha hh⟩

end

variable {files : FileTree} {directory : Path} {options : Options}
variable {known known' : Option (Option UInt32)}

-- What is withheld in the course of a whole validation is withheld while the steps of the plan are
-- carried out.
theorem ValidateRecords.cases_of_unmade {card : Scorecard}
    (h : v.ValidateRecords files directory options known events known' (.ok card)) :
    ∃ artifacts, Artifacts.discover files directory = .ok artifacts ∧
      (0 < total (v.withheld artifacts.sources) events ↔ v.unmade artifacts.sources events ≠ []) ∧
      (v.config.staticAnalyzers.Nodup → (artifacts.sources.map (·.path)).Nodup →
        total (v.withheld artifacts.sources) events =
          (v.unmade artifacts.sources events).length) := by
  have hs := h.events_eq_nil
  obtain ⟨artifacts, results, hd, rfl, hr⟩ := h.cases_of_ok
  refine ⟨artifacts, hd, ?_⟩
  rcases hr with ⟨ho, rfl⟩ | ⟨-, before, major, later, rfl, hm, hb⟩
  case inl =>
    rw [hs ho, unmade_eq_nil (List.forall_mem_nil _)]
    exact ⟨iff_of_false (Nat.lt_irrefl 0) fun hn => hn rfl, fun _ _ => rfl⟩
  case inr =>
    rw [total_append, total_withheld_eq_zero hm.not_mishap, Nat.zero_add,
      unmade_append_left hm.not_mishap]
    cases hb
    case opened build later hb =>
      have ho : ∀ e ∈ [Event.openedBuild build], e.isMishap = false :=
        List.forall_mem_singleton.mpr rfl
      have hc : ∀ e ∈ [Event.closedBuild build], e.isMishap = false :=
        List.forall_mem_singleton.mpr rfl
      rw [← List.singleton_append, unmade_append_right hc, unmade_append_left ho, total_append,
        total_append, total_withheld_eq_zero ho, total_withheld_eq_zero hc, Nat.zero_add,
        Nat.add_zero]
      refine ⟨hb.withheld_pos_iff, fun ha hn => ?_⟩
      rw [hb.length_unmade ha hn]
      exact (hb.missing (fun _ => isPlanned_of_mem_steps) fun _ => reads_of_mem_steps).symm

end Auditor
end CourseAudit
