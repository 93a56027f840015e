import CourseAudit.Proofs.Answers
import CourseAudit.Proofs.CheckNames

/-!
When a pattern passes in full. By the standard contract, nothing counts against a pattern if and
only if its sources are there, its builds succeed, its programs show what they have to, and neither
an available analyzer nor the documentation gives a reason for complaint. Main statement:
`isFullyPassing_iff`.
-/
namespace CourseAudit

-- The output that a step makes, if it makes one.
def Step.output? : Step → Option (Subject × Option Tool)
  | .compile s => some (s, none)
  | .sanitize s tool => some (s, some tool)
  | _ => none

-- The steps that need no analyzer, with expectations that can be met.
def Step.IsRegular : Step → Prop
  | .compile s => s.expected = .mustBeClean
  | .sanitize _ tool => tool ≠ .compiler
  | .analyze .. => False
  | _ => True

-- No result counts against the pattern.
def areFine (results : List CheckResult) : Bool :=
  results.all (·.outcome.isFine)

theorem areFine_cons {r : CheckResult} {later : List CheckResult} :
    areFine (r :: later) = true ↔ r.outcome.isFine = true ∧ areFine later = true := by
  rw [areFine, List.all_cons, Bool.and_eq_true, areFine]

theorem areFine_singleton {r : CheckResult} : areFine [r] = true ↔ r.outcome.isFine = true := by
  rw [areFine_cons]
  exact and_iff_left rfl

theorem areFine_append {results later : List CheckResult} :
    areFine (results ++ later) = true ↔ areFine results = true ∧ areFine later = true := by
  rw [areFine, List.all_append, Bool.and_eq_true, areFine, areFine]

namespace Auditor
namespace Bench

variable {b : Bench} {number : Nat} {events : List Event}

-- A step of a plan either makes one output, and its result depends on the answers about it, or it
-- asks nothing and does no harm.
theorem StepRecords.cases_of_isRegular {step : Step} {results : List CheckResult}
    (h : b.StepRecords number step events (.ok results)) (hs : step.IsRegular) :
    (∃ s sanitizer, step.output? = some (s, sanitizer) ∧ step.builds = 1 ∧
      b.About (· = number) events ∧ (areFine results = true ↔ b.Made events number s sanitizer)) ∨
    (step.output? = none ∧ step.builds = 0 ∧ events = [] ∧ areFine results = true) := by
  cases h
  case compile s r h =>
    exact .inl ⟨s, none, rfl, rfl, h.about, areFine_singleton.trans <| h.isFine_iff hs⟩
  case sanitize s tool r h =>
    exact .inl ⟨s, some tool, rfl, rfl, h.about, areFine_singleton.trans <| h.isFine_iff hs⟩
  case skipCompile => exact .inr ⟨rfl, rfl, rfl, rfl⟩
  case review => exact .inr ⟨rfl, rfl, rfl, rfl⟩
  case analyze => exact hs.elim

-- What later steps ask does not concern the outputs before them, and the other way round, so each
-- output can be judged by all events.
theorem areFine_iff_of_isRegular {steps : List Step} {parts : List (List CheckResult)}
    (h : Audit.InTurn (fun p => b.StepRecords p.1 p.2) (Step.numbered number steps) events
      (.ok parts))
    (hs : ∀ step ∈ steps, step.IsRegular) :
    b.About (number ≤ ·) events ∧
      (areFine parts.flatten = true ↔
        ∀ p ∈ (steps.filterMap Step.output?).zipIdx number, b.Made events p.2 p.1.1 p.1.2) := by
  induction steps generalizing number events parts <;> cases h
  case nil => exact ⟨.nil, by simp [areFine]⟩
  case cons step rest hi events later results parts h ht =>
    have ⟨hsr, hrr⟩ := List.forall_mem_cons.1 hs
    have ⟨ha, hf⟩ := hi ht hrr
    rw [List.flatten_cons, areFine_append]
    rcases h.cases_of_isRegular hsr with ⟨s, sanitizer, ho, hb, hn, hr⟩ | ⟨ho, hb, rfl, hr⟩
    case inl =>
      rw [hb] at ha hf
      refine ⟨(hn.mono (by omega)).append (ha.mono (by omega)), ?_⟩
      rw [List.filterMap_cons_some ho, List.zipIdx_cons, List.forall_mem_cons]
      refine and_congr (hr.trans <| Made.congr fun i hi => ?_)
        (hf.trans <| forall₂_congr fun p hp => Made.congr fun i hi => ?_)
      case refine_1 =>
        have := answersTo_eq_nil (ha.not_mem hi (by omega))
        rw [answersTo_append, this, List.append_nil]
      case refine_2 =>
        have := (List.mem_zipIdx hp).1
        have := answersTo_eq_nil (hn.not_mem hi (by omega))
        rw [answersTo_append, this, List.nil_append]
    case inr =>
      rw [hb] at ha hf
      refine ⟨ha, ?_⟩
      rw [List.filterMap_cons_none ho, List.nil_append]
      exact (and_iff_right hr).trans hf

variable (b) in
-- An answer of an analyzer that is no reason for complaint: it ended well and found nothing, or it
-- is not there after all.
def Tolerates (tool : Tool) : Answer → Prop
  | .ran reply => b.Meets tool reply .mustBeClean
  | .failed (.notFound _) => True
  | _ => False

-- An available analyzer is invoked once for a source, and the result depends on its answer.
theorem AnalyzeRecords.cases_of_mustBeClean {analyzer : String} {s : Subject} {available : Bool}
    {r : CheckResult} (h : b.AnalyzeRecords analyzer s available events (.ok r))
    (hs : s.expected = .mustBeClean) :
    (available = false ∧ events = [] ∧ r.outcome.isFine = true) ∨
    (available = true ∧ ∃ answer, events = [.invoked (b.analyzing analyzer s.artifact) answer] ∧
      (r.outcome.isFine = true ↔ b.Tolerates (.analyzer analyzer) answer)) := by
  cases h
  case unavailable => exact .inl ⟨rfl, rfl, rfl⟩
  all_goals refine .inr ⟨rfl, _, rfl, ?_⟩
  case judged reply =>
    have ht : (b.analyzing analyzer s.artifact).tool ≠ .compiler := fun h => Tool.noConfusion h
    rw [Judgement.named, judge_isFine ht, hs]
    rfl
  case gone => exact iff_of_true rfl trivial
  case failed f hf =>
    cases f
    case notFound program => exact absurd rfl (hf program)
    all_goals exact iff_of_false Bool.false_ne_true id

-- An available analyzer is invoked once for every source.
theorem inTurn_analyzeRecords {analyzer : String} {subjects : List Subject}
    {results : List CheckResult}
    (h : Audit.InTurn (b.AnalyzeRecords analyzer · true) subjects events (.ok results))
    (hs : ∀ s ∈ subjects, s.expected = .mustBeClean) :
    (areFine results = true ↔ ∀ i answer, .invoked i answer ∈ events → b.Tolerates i.tool answer) ∧
    (∀ e ∈ events, ∃ s ∈ subjects, ∃ answer,
      e = .invoked (b.analyzing analyzer s.artifact) answer) ∧
    (∀ s ∈ subjects, ∃ answer, .invoked (b.analyzing analyzer s.artifact) answer ∈ events) := by
  induction subjects generalizing events results <;> cases h
  case nil => exact ⟨iff_of_true rfl (by simp), by simp, by simp⟩
  case cons s rest hi events later r results h ht =>
    have ⟨hsr, hrr⟩ := List.forall_mem_cons.1 hs
    have ⟨hf, ha, hv⟩ := hi ht hrr
    rcases h.cases_of_mustBeClean hsr with ⟨⟨⟩, _⟩ | ⟨-, answer, rfl, hr⟩
    refine ⟨?_, ?_, ?_⟩
    case refine_1 =>
      have hn : b.Tolerates (b.analyzing analyzer s.artifact).tool answer ↔
        b.Tolerates (.analyzer analyzer) answer := Iff.rfl
      simp [areFine_cons, hr, hf, hn, or_imp, forall_and]
    case refine_2 =>
      rintro e (_ | ⟨_, he⟩)
      case head => exact ⟨s, List.mem_cons_self, answer, rfl⟩
      case tail =>
        have ⟨s', hs', he⟩ := ha e he
        exact ⟨s', List.mem_cons_of_mem _ hs', he⟩
    case refine_3 =>
      rintro s' (_ | ⟨_, hs'⟩)
      case head => exact ⟨answer, List.mem_cons_self⟩
      case tail =>
        have ⟨answer', he⟩ := hv s' hs'
        exact ⟨answer', List.mem_cons_of_mem _ he⟩

variable (b) in
-- What analyzers leave behind: who was invoked was there, who was there was invoked, and the
-- results depend on the answers.
structure Analyzed (analyzers : List String) (subjects : List Subject) (events : List Event)
    (results : List CheckResult) : Prop where
  areFine_iff : areFine results = true ↔
    ∀ i answer, .invoked i answer ∈ events → b.Tolerates i.tool answer
  asked       : ∀ i answer, .invoked i answer ∈ events →
    ∃ analyzer ∈ analyzers, ∃ s ∈ subjects,
      i = b.analyzing analyzer s.artifact ∧ .asked analyzer true ∈ events
  invoked     : ∀ analyzer, ∀ s ∈ subjects, .asked analyzer true ∈ events →
    ∃ answer, .invoked (b.analyzing analyzer s.artifact) answer ∈ events

namespace Analyzed

variable {analyzer : String} {analyzers : List String} {subjects : List Subject}
variable {available : Bool} {results : List CheckResult}

theorem cons {rest : List String} {later : List Event} {behind : List CheckResult}
    (h : b.Analyzed [analyzer] subjects events results)
    (ht : b.Analyzed rest subjects later behind) :
    b.Analyzed (analyzer :: rest) subjects (events ++ later) (results ++ behind) where
  areFine_iff := by
    simp only [areFine_append, h.areFine_iff, ht.areFine_iff, List.mem_append, or_imp, forall_and]
  asked i answer hi := by
    rcases List.mem_append.1 hi with hi | hi
    case inl =>
      have ⟨a, ha, s, hs, hi, he⟩ := h.asked i answer hi
      exact ⟨a, List.mem_singleton.1 ha ▸ List.mem_cons_self, s, hs, hi, List.mem_append_left _ he⟩
    case inr =>
      have ⟨a, ha, s, hs, hi, he⟩ := ht.asked i answer hi
      exact ⟨a, List.mem_cons_of_mem _ ha, s, hs, hi, List.mem_append_right _ he⟩
  invoked a s hs he := by
    rcases List.mem_append.1 he with he | he
    case inl =>
      have ⟨answer, hi⟩ := h.invoked a s hs he
      exact ⟨answer, List.mem_append_left _ hi⟩
    case inr =>
      have ⟨answer, hi⟩ := ht.invoked a s hs he
      exact ⟨answer, List.mem_append_right _ hi⟩

end Analyzed

-- A missing analyzer is not invoked, which does no harm.
theorem inTurn_analyzeRecords_of_unavailable {analyzer : String} {subjects : List Subject}
    {results : List CheckResult}
    (h : Audit.InTurn (b.AnalyzeRecords analyzer · false) subjects events (.ok results)) :
    events = [] ∧ areFine results = true := by
  induction subjects generalizing events results <;> cases h
  case nil => exact ⟨rfl, rfl⟩
  case cons hi _ _ _ _ h ht =>
    have ⟨he, hf⟩ := hi ht
    cases h
    exact ⟨he, hf⟩

theorem StepRecords.analyzed {analyzer : String} {subjects : List Subject}
    {results : List CheckResult}
    (h : b.StepRecords number (.analyze analyzer subjects) events (.ok results))
    (hs : ∀ s ∈ subjects, s.expected = .mustBeClean) :
    b.Analyzed [analyzer] subjects events results := by
  cases h
  case analyze available h =>
    cases available
    case false =>
      have ⟨he, hf⟩ := inTurn_analyzeRecords_of_unavailable h
      exact ⟨iff_of_true hf (by simp [he]), by simp [he], by simp [he]⟩
    case true =>
      have ⟨hf, ha, hv⟩ := inTurn_analyzeRecords h hs
      refine ⟨by simpa using hf, ?_, ?_⟩
      case refine_1 =>
        rintro i answer (_ | ⟨_, he⟩)
        have ⟨s, hs, _, he⟩ := ha _ he
        cases he
        exact ⟨analyzer, List.mem_singleton_self _, s, hs, rfl, List.mem_cons_self⟩
      case refine_2 =>
        rintro a s hs (_ | ⟨_, he⟩)
        case head =>
          have ⟨answer, hi⟩ := hv s hs
          exact ⟨answer, List.mem_cons_of_mem _ hi⟩
        case tail =>
          have ⟨_, _, _, he⟩ := ha _ he
          cases he

theorem analyzed_of_inTurn {analyzers : List String} {subjects : List Subject}
    {parts : List (List CheckResult)}
    (h : Audit.InTurn (fun p => b.StepRecords p.1 p.2)
      (Step.numbered number (analyzers.map (.analyze · subjects))) events (.ok parts))
    (hs : ∀ s ∈ subjects, s.expected = .mustBeClean) :
    b.Analyzed analyzers subjects events parts.flatten := by
  induction analyzers generalizing number events parts <;> cases h
  case nil => exact ⟨iff_of_true rfl (by simp), by simp, by simp⟩
  case cons hi _ _ _ _ h ht => exact (h.analyzed hs).cons (hi ht)

end Bench
-- The sanitizers that a source is built for. Races are looked for in modules about concurrency
-- only, and undefined behavior in secure sources only.
def sanitizersOf (v : Auditor) (module : String) : Role → List Tool
  | .vulnerable =>
    if v.config.isConcurrencyModule module then [.addressSanitizer, .threadSanitizer]
    else [.addressSanitizer]
  | .secure =>
    if v.config.isConcurrencyModule module then
      [.addressSanitizer, .threadSanitizer, .undefinedSanitizer]
    else [.addressSanitizer, .undefinedSanitizer]
  | .exploit => []

def instrumented (v : Auditor) (module : String) (sources : List Artifact) :
    List (Artifact × Tool) :=
  sources.flatMap fun a => (v.sanitizersOf module a.role).map (a, ·)

-- What the last run of a program has to show, by the role of its source.
def Bench.Shows (b : Bench) (tool : Tool) (reply : Reply) : Role → Prop
  | .vulnerable => reply.timedOut = false ∧ b.Diagnosed tool reply
  | .secure => reply.exitedCleanly = true ∧ ¬b.Diagnosed tool reply
  | .exploit => True

-- Outputs are numbered from 1 on, first the plain builds and then those for the sanitizers.
def Bench.CompilesAll (b : Bench) (sources : List Artifact) (events : List Event) : Prop :=
  ∀ a number, (a, number) ∈ sources.zipIdx 1 → Succeeded events (b.building number a none)

def Bench.SanitizesAll (b : Bench) (module : String) (sources : List Artifact)
    (events : List Event) : Prop :=
  ∀ a tool number,
    ((a, tool), number) ∈ (b.auditor.instrumented module sources).zipIdx (sources.length + 1) →
    Succeeded events (b.building number a tool) ∧
      ∃ reply, (answersTo (b.running number a tool) events).getLast? = some (.ran reply) ∧
        b.Shows tool reply a.role

def Bench.AnalyzesAll (b : Bench) (sources : List Artifact) (events : List Event) : Prop :=
  ∀ analyzer ∈ b.config.staticAnalyzers, .asked analyzer true ∈ events →
    ∀ a ∈ sources, a.role = .secure →
      answersTo (b.analyzing analyzer a) events ≠ [] ∧
        ∀ answer ∈ answersTo (b.analyzing analyzer a) events,
          b.Tolerates (.analyzer analyzer) answer

-- A pattern passes in full.
structure FullPass (b : Bench) (files : FileTree) (module : String) (artifacts : Artifacts)
    (events : List Event) : Prop where
  vulnerable : ∃ a ∈ artifacts.sources, a.role = .vulnerable
  secure     : ∃ a ∈ artifacts.sources, a.role = .secure
  compiled   : b.CompilesAll artifacts.sources events
  sanitized  : b.SanitizesAll module artifacts.sources events
  analyzed   : b.AnalyzesAll artifacts.sources events
  documented : artifacts.documentation = none ∨
    ∃ path bytes, artifacts.documentation = some path ∧ files.read path = .ok bytes ∧
      Documentation.identifiers (Text.Utf8.decodeLossy bytes) ≠ []

section

variable {v : Auditor} {module : String} {sources : List Artifact}

def regularSteps (v : Auditor) (module : String) (sources : List Artifact) : List Step :=
  v.quickSteps sources ++ sources.flatMap (v.sanitizeSteps (v.sanitizersFor module))

def secureSubjects (sources : List Artifact) : List Subject :=
  (sources.filter (·.role = .secure)).map (⟨·, .mustBeClean⟩)

theorem subjects_analyzer (hc : v.contract = .standard) (analyzer : String) :
    v.subjects (.analyzer analyzer) sources = secureSubjects sources := by
  induction sources
  case nil => rfl
  case cons a rest hi =>
    rcases a with ⟨_ | _ | _, path⟩ <;>
      simpa [subjects, secureSubjects, subject, hc, Contract.expected, Contract.standard,
        Contract.standardCell, Tool.classOf] using hi

theorem steps_full (hc : v.contract = .standard) :
    v.steps .full module sources = v.regularSteps module sources ++
      v.config.staticAnalyzers.map (.analyze · (secureSubjects sources)) := by
  rw [steps, fullSteps, regularSteps, List.append_assoc]
  congr 2
  exact List.map_congr_left fun analyzer _ => by rw [analyzeStep, subjects_analyzer hc]

theorem compileStep_eq (hc : v.contract = .standard) (a : Artifact) :
    v.compileStep a = .compile ⟨a, .mustBeClean⟩ := by
  rcases a with ⟨_ | _ | _, path⟩ <;> simp [compileStep, subject, hc, Contract.expected] <;> rfl

theorem quickSteps_eq (hc : v.contract = .standard) :
    v.quickSteps sources = sources.map fun a => .compile ⟨a, .mustBeClean⟩ :=
  List.map_congr_left fun a _ => compileStep_eq hc a

theorem compiler_not_mem_sanitizersFor : .compiler ∉ v.sanitizersFor module := by
  rw [sanitizersFor]
  split <;> simp

theorem isRegular_of_mem_regularSteps (hc : v.contract = .standard) :
    ∀ step ∈ v.regularSteps module sources, step.IsRegular := by
  intro step h
  rcases List.mem_append.1 h with h | h
  case inl =>
    rw [quickSteps_eq hc] at h
    have ⟨a, _, h⟩ := List.mem_map.1 h
    exact h ▸ rfl
  case inr =>
    have ⟨a, _, h⟩ := List.mem_flatMap.1 h
    rcases List.mem_append.1 h with h | h
    case inl =>
      have ⟨p, hp, h⟩ := List.mem_map.1 h
      have ⟨tool, ht, hp⟩ := List.mem_map.1 (List.mem_filter.1 hp).1
      rw [← h, ← hp]
      rintro rfl
      exact compiler_not_mem_sanitizersFor ht
    case inr =>
      split at h
      · exact List.mem_singleton.1 h ▸ trivial
      · cases h

theorem outputs_sanitizeSteps (hc : v.contract = .standard) (a : Artifact) :
    (v.sanitizeSteps (v.sanitizersFor module) a).filterMap Step.output? =
      (v.sanitizersOf module a.role).map fun tool =>
        (⟨a, Contract.standardCell a.role tool.classOf⟩, some tool) := by
  rw [sanitizeSteps, sanitizersFor, sanitizersOf.eq_def]
  simp only [subject, hc]
  rcases a with ⟨_ | _ | _, path⟩ <;> cases v.config.isConcurrencyModule module <;> rfl

theorem outputs_regularSteps (hc : v.contract = .standard) :
    (v.regularSteps module sources).filterMap Step.output? =
      (sources.map fun a => (⟨a, .mustBeClean⟩, none)) ++
        (v.instrumented module sources).map fun p =>
          (⟨p.1, Contract.standardCell p.1.role p.2.classOf⟩, some p.2) := by
  rw [regularSteps, quickSteps_eq hc, List.filterMap_append, List.filterMap_map]
  congr 1
  case e_a => exact congrFun List.filterMap_eq_map' _
  case e_a =>
    simp only [List.filterMap_flatMap, outputs_sanitizeSteps hc, instrumented, List.map_flatMap,
      List.map_map, Function.comp_def]

theorem meets_standardCell_iff {b : Bench} {a : Artifact} {tool : Tool} {reply : Reply}
    (h : (a, tool) ∈ v.instrumented module sources) :
    b.Meets tool reply (Contract.standardCell a.role tool.classOf) ↔ b.Shows tool reply a.role := by
  have ⟨a', _, h⟩ := List.mem_flatMap.1 h
  have ⟨tool', ht, h⟩ := List.mem_map.1 h
  cases h
  rw [sanitizersOf.eq_def] at ht
  rcases a with ⟨_ | _ | _, path⟩
  case vulnerable =>
    dsimp only at ht
    split at ht <;> simp at ht
    case isTrue => rcases ht with rfl | rfl <;> rfl
    case isFalse => cases ht; rfl
  case secure => cases tool <;> rfl
  case exploit => cases ht

variable {b : Bench} {events : List Event} {results : List CheckResult}

theorem forall_made_iff (hc : b.auditor.contract = .standard) :
    (∀ p ∈ ((b.auditor.regularSteps module sources).filterMap Step.output?).zipIdx 1,
      b.Made events p.2 p.1.1 p.1.2) ↔
    b.CompilesAll sources events ∧ b.SanitizesAll module sources events := by
  rw [outputs_regularSteps hc, List.zipIdx_append, List.forall_mem_append, List.zipIdx_map,
    List.zipIdx_map, List.forall_mem_map, List.forall_mem_map, List.length_map, Nat.add_comm]
  simp only [Prod.forall, Prod.map]
  refine and_congr Iff.rfl <| forall₃_congr fun a tool number => forall_congr' fun h => ?_
  rw [Bench.Made]
  simp only [id, meets_standardCell_iff (List.fst_mem_of_mem_zipIdx h)]

theorem mem_secureSubjects {s : Subject} :
    s ∈ secureSubjects sources ↔ ∃ a ∈ sources, a.role = .secure ∧ s = ⟨a, .mustBeClean⟩ := by
  simp [secureSubjects, and_assoc, eq_comm]

-- What analyzers leave behind counts against the pattern only by what they say of secure sources.
theorem Bench.Analyzed.areFine_iff_of_secure
    (h : b.Analyzed b.config.staticAnalyzers (secureSubjects sources) events results) :
    areFine results = true ↔ b.AnalyzesAll sources events := by
  rw [h.areFine_iff]
  constructor
  case mp =>
    intro ht analyzer _ he a ha hr
    have hs := mem_secureSubjects.2 ⟨a, ha, hr, rfl⟩
    have ⟨answer, hi⟩ := h.invoked analyzer _ hs he
    refine ⟨List.ne_nil_of_mem (mem_answersTo.2 hi), fun answer hm => ?_⟩
    exact ht _ _ (mem_answersTo.1 hm)
  case mpr =>
    intro ht i answer hi
    have ⟨analyzer, hn, s, hs, hi', he⟩ := h.asked i answer hi
    have ⟨a, ha, hr, hs⟩ := mem_secureSubjects.1 hs
    subst hi' hs
    exact (ht analyzer hn he a ha hr).2 answer (mem_answersTo.2 hi)

-- The builds and the analyzers of a plan do not ask about each other's work, so both can be judged
-- by all events.
theorem Bench.StepsRecord.areFine_iff (hc : b.auditor.contract = .standard)
    (h : b.StepsRecord 1 (b.auditor.steps .full module sources) events (.ok results)) :
    areFine results = true ↔
      (b.CompilesAll sources events ∧ b.SanitizesAll module sources events) ∧
        b.AnalyzesAll sources events := by
  obtain ⟨parts, h, rfl⟩ := h
  have ⟨next, hn⟩ := Step.exists_numbered_append 1 (b.auditor.regularSteps module sources)
    (b.auditor.config.staticAnalyzers.map (.analyze · (secureSubjects sources)))
  rw [steps_full hc, hn] at h
  obtain ⟨before, behind, done, rest, rfl, rfl, hr, ha⟩ := h.of_append
  have ⟨hb, hd⟩ := areFine_iff_of_isRegular hr (isRegular_of_mem_regularSteps hc)
  have hv := analyzed_of_inTurn ha fun s hs =>
    have ⟨_, _, _, hs⟩ := mem_secureSubjects.1 hs
    hs ▸ rfl
  rw [List.flatten_append, areFine_append, hd, hv.areFine_iff_of_secure, ← forall_made_iff hc]
  refine and_congr (forall₂_congr fun p _ => Made.congr fun i hi => ?_) ?_
  case refine_1 =>
    have hn (answer : Answer) : .invoked i answer ∉ behind := fun he =>
      have ⟨_, _, _, _, ha, _⟩ := hv.asked i answer he
      not_concerns_analyzing (ha ▸ hi)
    rw [answersTo_append, answersTo_eq_nil hn, List.append_nil]
  case refine_2 =>
    have hn (analyzer : String) (a : Artifact) :
        answersTo (b.analyzing analyzer a) (before ++ behind) =
          answersTo (b.analyzing analyzer a) behind := by
      rw [answersTo_append, answersTo_eq_nil (hb.analyzing_not_mem analyzer a), List.nil_append]
    simp only [AnalyzesAll, hn, List.mem_append, hb.asked_not_mem, false_or]

end

end Auditor

theorem Artifacts.presence_isFine_iff (a : Artifacts) (role : Role) :
    (a.presence role).outcome.isFine = true ↔ ∃ source ∈ a.sources, source.role = role := by
  rw [presence]
  split
  case h_1 h =>
    refine iff_of_false Bool.false_ne_true ?_
    simpa [ofRole] using h
  case h_2 hn =>
    refine iff_of_true rfl ?_
    simpa [ofRole] using hn

theorem Artifacts.areFine_presences_iff (a : Artifacts) :
    areFine a.presences = true ↔
      (∃ source ∈ a.sources, source.role = .vulnerable) ∧
      ∃ source ∈ a.sources, source.role = .secure := by
  rw [presences, areFine_cons, areFine_singleton, presence_isFine_iff, presence_isFine_iff]

theorem Documentation.check_isFine_iff (files : FileTree) (documentation : Option Path) :
    (Documentation.check files documentation).outcome.isFine = true ↔
      documentation = none ∨ ∃ path bytes, documentation = some path ∧
        files.read path = .ok bytes ∧ identifiers (Text.Utf8.decodeLossy bytes) ≠ [] := by
  cases documentation
  case none => exact iff_of_true rfl (.inl rfl)
  case some path =>
    rw [check]
    rcases hr : files.read path with e | bytes
    case error => simp [hr, Outcome.isFine, Outcome.counts?]
    case ok =>
      simp only [checkBytes]
      split
      case h_1 hi => simp [hr, hi, Outcome.isFine, Outcome.counts?]
      case h_2 hi => simpa [hr, Outcome.isFine, Outcome.counts?] using hi

namespace Sample

-- A machine on which every tool works, except that one analyzer is gone when it is needed. Its
-- state holds what the next instrumented programs print.
def scriptedHost : Host (List String) where
  isAvailable _ script := (true, script)
  invoke i script :=
    match i.tool with
    | .compiler | .analyzer "cppcheck" => (.ran ⟨some 0, "", false⟩, script)
    | .analyzer name => (.failed (.notFound name), script)
    | _ => (.ran ⟨some 0, script.headD "", false⟩, script.tail)
  openBuild script := (.ok ⟨"/tmp/build"⟩, script)
  closeBuild _ script := script

-- The sanitizers find what is wrong with the vulnerable source, which is run first.
def script : List String := ["heap-use-after-free", "data race"]

theorem validate_isFullyPassing :
    (auditor.validate files scriptedHost directory ⟨.full, false⟩ (.initial script)).1.toOption.map
      (·.isFullyPassing) = some true := by
  rw [Auditor.validate_of_discover discover_eq rfl]
  decide +kernel

end Sample

namespace Auditor

variable {σ : Type} {v : Auditor} {files : FileTree} {host : Host σ} {directory : Path}

-- The exchanges of a validation in full mode decide whether the pattern passes, and they do so by
-- the answers to the invocations of its own plan alone.
theorem isFullyPassing_iff {s t : Session σ} {card : Scorecard}
    (hc : v.contract = v.config.contract) (ho : v.config.contractOverrides = [])
    (hv : v.validate files host directory ⟨.full, false⟩ s = (.ok card, t)) :
    ∃ artifacts major build before events,
      Artifacts.discover files directory = .ok artifacts ∧
      v.MajorRecords s.compiler before t.compiler (.ok major) ∧
      t.journal = s.journal ++ (before ++ (.openedBuild build :: events ++ [.closedBuild build])) ∧
      (card.isFullyPassing = true ↔
        FullPass ⟨v, major, build⟩ files (Course.moduleName directory) artifacts events) := by
  have hr : (v.validate files host directory ⟨.full, false⟩ s).1 = .ok card := by rw [hv]
  have hs : v.contract = .standard := by rw [hc, Config.contract, ho]; rfl
  obtain ⟨artifacts, results, hd, he, h⟩ := validate_ok hr
  rcases h with ⟨⟨⟩, _⟩ | ⟨-, before, major, _, hj, hm, hb⟩
  rw [hv] at hj hm
  cases hb
  case opened build events hb =>
    refine ⟨artifacts, major, build, before, events, hd, hm, hj, ?_⟩
    have hp : card.isFullyPassing = areFine card.results := rfl
    rw [hp, he, scorecard, areFine_append, areFine_append, hb.areFine_iff hs, areFine_singleton,
      artifacts.areFine_presences_iff, Documentation.check_isFine_iff]
    constructor
    case mp =>
      rintro ⟨⟨⟨h₁, h₂⟩, ⟨h₃, h₄⟩, h₅⟩, h₆⟩
      exact ⟨h₁, h₂, h₃, h₄, h₅, h₆⟩
    case mpr =>
      rintro ⟨h₁, h₂, h₃, h₄, h₅, h₆⟩
      exact ⟨⟨⟨h₁, h₂⟩, ⟨h₃, h₄⟩, h₅⟩, h₆⟩

end Auditor

namespace Sample

theorem fullPass_of_working_tools :
    ∃ (card : Scorecard) (t : Session (List String)) (major : Option UInt32) (build : Path)
      (events : List Event),
      auditor.validate files scriptedHost directory ⟨.full, false⟩ (.initial script) =
        (.ok card, t) ∧
      (∀ e ∈ events, e ∈ t.journal) ∧
      Auditor.FullPass ⟨auditor, major, build⟩ files "07-concurrency" artifacts events := by
  have hp := validate_isFullyPassing
  rcases hv : auditor.validate files scriptedHost directory ⟨.full, false⟩ (.initial script)
    with ⟨e | card, t⟩ <;> rw [hv] at hp
  case error => cases hp
  case ok =>
    have ⟨artifacts', major, build, before, events, hd, _, hj, hi⟩ :=
      Auditor.isFullyPassing_iff rfl rfl hv
    cases discover_eq.symm.trans hd
    refine ⟨card, t, major, build, events, rfl, fun e he => ?_, hi.1 (Option.some.inj hp)⟩
    simp [hj, he]

end Sample
end CourseAudit
