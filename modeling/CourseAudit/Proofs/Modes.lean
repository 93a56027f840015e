import CourseAudit.Proofs.Interference
import CourseAudit.Proofs.Isolation

/-!
What a mode adds to a smaller one. On a host whose answers depend on the question alone, a full
validation starts as a quick one does, and its scorecard is the quick one with further checks before
the last one; in the same way a quick validation adds to one that builds nothing. Main statement:
`validate_by_mode`.
-/
namespace CourseAudit

variable {σ τ α α' β β' : Type}

-- The invocations among some exchanges.
def Event.issued (events : List Event) : List Invocation :=
  events.filterMap fun e => e.invocation?.map (·.1)

theorem Event.issued_append (events later : List Event) :
    issued (events ++ later) = issued events ++ issued later :=
  List.filterMap_append

def Session.issued (s : Session σ) : List Invocation :=
  Event.issued s.journal

theorem Session.Continues.issued_eq {s t : Session σ} {events : List Event}
    (h : s.Continues events t) : t.issued = s.issued ++ Event.issued events := by
  rw [Session.issued, h.journal, Event.issued_append]
  rfl

namespace Audit

-- Two parts invoke the same tools and end alike, but for the names of two directories.
def Matched (b b' : Path) (R : α → α' → Prop) (x : Audit σ α) (y : Audit τ α') : Prop :=
  ∀ s t, ∃ events events', s.Continues events (x s).2 ∧ t.Continues events' (y t).2 ∧
    List.Forall₂ (Invocation.Renamed b b') (Event.issued events) (Event.issued events') ∧
    Ends True (Stop.Renamed b b') R (x s).1 (y t).1

namespace Matched

variable {b b' : Path} {R R' : α → α' → Prop} {S : β → β' → Prop}
variable {x : Audit σ α} {y : Audit τ α'} {f : α → Audit σ β} {g : α' → Audit τ β'}

theorem pure {a : α} {a' : α'} (h : R a a') :
    Matched b b' R (pure a : Audit σ α) (pure a' : Audit τ α') :=
  fun s t => ⟨[], [], .refl s, .refl t, .nil, .done h⟩

-- What is invoked does not depend on the answers here.
theorem of_records {is is' : List Invocation} (ha : Alike True (Stop.Renamed b b') R x y)
    (hx : x.Records fun events _ => Event.issued events = is)
    (hy : y.Records fun events _ => Event.issued events = is')
    (hi : List.Forall₂ (Invocation.Renamed b b') is is') : Matched b b' R x y := by
  intro s t
  obtain ⟨events, hc, rfl⟩ := hx s
  obtain ⟨events', hc', rfl⟩ := hy t
  exact ⟨events, events', hc, hc', hi, ha s t⟩

theorem bind (hx : Matched b b' R x y) (hf : ∀ a a', R a a' → Matched b b' S (f a) (g a')) :
    Matched b b' S (x >>= f) (y >>= g) := by
  intro s t
  obtain ⟨events, events', hc, hc', hi, he⟩ := hx s t
  rw [bind_apply, bind_apply]
  generalize x s = p, y t = q at hc hc' he
  rcases p with ⟨r, s'⟩
  rcases q with ⟨r', t'⟩
  rcases he.cases_of_strict with ⟨a, a', rfl, rfl, ha⟩ | ⟨e, e', rfl, rfl, hr⟩
  case inl =>
    obtain ⟨later, later', hl, hl', hi', he⟩ := hf a a' ha s' t'
    refine ⟨events ++ later, events' ++ later', hc.trans hl, hc'.trans hl', ?_, he⟩
    rw [Event.issued_append, Event.issued_append]
    exact List.rel_append hi hi'
  case inr => exact ⟨events, events', hc, hc', hi, .stopped hr⟩

end Matched
end Audit

-- A program is built without any sanitizer, or not at all.
inductive Step.IsPlain : Step → Prop
  | compile (s) : IsPlain (.compile s)
  | skipCompile (a) : IsPlain (.skipCompile a)

namespace Auditor

theorem CompilerInvoked.issued_eq {i : Invocation} {events : List Event}
    {r : Except Stop ToolRun} (h : CompilerInvoked i events r) : Event.issued events = [i] := by
  obtain ⟨answer, rfl⟩ := h.exists_eq
  rfl

namespace Bench

variable {b : Bench} {build : Path} {h : Host σ} {h' : Host τ}

theorem CompileRecords.issued_eq {number : Nat} {s : Subject} {events : List Event}
    {r : Except Stop CheckResult} (hr : b.CompileRecords number s events r) :
    Event.issued events = [b.building number s.artifact none] := by
  obtain ⟨answer, rfl⟩ := hr.exists_eq
  rfl

theorem runStep_matched (number : Nat) {step : Step} (hp : step.IsPlain)
    (hv : ∀ program s t, (h.isAvailable program s).1 = (h'.isAvailable program t).1)
    (ha : ∀ c, b.AgreeOn h h' build c) :
    Audit.Matched b.build build (ResultsAlike (b.CheckAlike h h' build) (step.checks number))
      (b.runStep h number step) ((b.moved build).runStep h' number step) := by
  have hr : b.PartsAlike True build (ResultsAlike (b.CheckAlike h h' build) (step.checks number))
      (·.runStep h number step) (·.runStep h' number step) := runStep_alike hv fun _ => ha
  cases hp
  case compile s =>
    have hi {b : Bench} {events : List Event} {r : Except Stop (List CheckResult)}
        (hr : b.StepRecords number (.compile s) events r) :
        Event.issued events = [b.building number s.artifact none] := by
      cases hr
      case compile hr => exact hr.issued_eq
      case compileStopped hr => exact hr.issued_eq
    exact .of_records hr ((b.runStep_records h number _).mono fun _ _ => hi)
      (((b.moved build).runStep_records h' number _).mono fun _ _ => hi)
      (.cons (building_renamed ..) .nil)
  case skipCompile a =>
    have hi {b : Bench} {events : List Event} {r : Except Stop (List CheckResult)}
        (hr : b.StepRecords number (.skipCompile a) events r) : Event.issued events = [] := by
      cases hr
      rfl
    exact .of_records hr ((b.runStep_records h number _).mono fun _ _ => hi)
      (((b.moved build).runStep_records h' number _).mono fun _ _ => hi) .nil

theorem runSteps_matched (number : Nat) {steps : List Step} (hp : ∀ step ∈ steps, step.IsPlain)
    (hv : ∀ program s t, (h.isAvailable program s).1 = (h'.isAvailable program t).1)
    (ha : ∀ c, b.AgreeOn h h' build c) :
    Audit.Matched b.build build (ResultsAlike (b.CheckAlike h h' build) (stepsChecks number steps))
      (b.runSteps h number steps) ((b.moved build).runSteps h' number steps) := by
  induction steps generalizing number
  case nil => exact .pure .nil
  case cons step rest hi =>
    have ⟨hp, hl⟩ := List.forall_mem_cons.1 hp
    refine (runStep_matched number hp hv ha).bind fun r r' hr => ?_
    exact (hi _ hl).bind fun rs rs' hrs => .pure (hr.append hrs)

-- A plan is carried out part by part, and the outputs are numbered through.
theorem runSteps_append (b : Bench) (h : Host σ) (number : Nat) (steps later : List Step) :
    b.runSteps h number (steps ++ later) =
      b.runSteps h number steps >>= fun here =>
        b.runSteps h (steps.foldl (fun n step => n + step.builds) number) later >>= fun behind =>
          pure (here ++ behind) := by
  funext s
  induction steps generalizing number s
  case nil =>
    simp only [List.nil_append, runSteps, Audit.bind_apply, Audit.pure_apply, List.foldl_nil]
    rcases b.runSteps h number later s with ⟨_ | _, _⟩ <;> rfl
  case cons step rest hi =>
    simp only [List.cons_append, runSteps, Audit.bind_apply, Audit.pure_apply, hi,
      List.foldl_cons]
    rcases b.runStep h number step s with ⟨_ | here, t⟩
    case error => rfl
    case ok =>
      dsimp only
      rcases b.runSteps h (number + step.builds) rest t with ⟨_ | behind, u⟩
      case error => rfl
      case ok =>
        dsimp only
        rcases b.runSteps h _ later u with ⟨_ | _, _⟩
        case error => rfl
        case ok => simp only [List.append_assoc]

end Bench

-- One validation precedes another: it invokes the same tools first, it stops for no reason of its
-- own, and what comes of it can be found in what comes of the other one.
structure Precedes (I : Invocation → Invocation → Prop) (E : Stop → Stop → Prop)
    (R : α → α' → Prop) (q : Except Stop α × Session σ) (q' : Except Stop α' × Session τ) :
    Prop where
  issued : ∃ front, front <+: q'.2.issued ∧ List.Forall₂ I q.2.issued front
  stops  : ∀ e, q.1 = .error e → ∃ e', q'.1 = .error e' ∧ E e e'
  gives  : ∀ a', q'.1 = .ok a' → ∃ a, q.1 = .ok a ∧ R a a'

namespace Precedes

variable {I : Invocation → Invocation → Prop} {E : Stop → Stop → Prop} {R : α → α' → Prop}
variable {S : β → β' → Prop}

theorem stopped {e e' : Stop} {s : Session σ} {t : Session τ} (he : E e e')
    (hi : List.Forall₂ I s.issued t.issued) :
    Precedes I E R (.error e, s) (.error e', t) where
  issued := ⟨_, List.prefix_rfl, hi⟩
  stops  := by
    rintro _ ⟨⟩
    exact ⟨e', rfl, he⟩
  gives  := nofun

theorem map {f : α → β} {g : α' → β'} {q : Except Stop α × Session σ}
    {q' : Except Stop α' × Session τ} (h : Precedes I E R q q')
    (hs : ∀ a a', R a a' → S (f a) (g a')) :
    Precedes I E S (q.map (·.map f) id) (q'.map (·.map g) id) where
  issued := h.issued
  stops  := by
    rcases q with ⟨e | a, s⟩
    case error =>
      rintro _ ⟨⟩
      obtain ⟨e', he', he⟩ := h.stops e rfl
      exact ⟨e', congrArg (·.map g) he', he⟩
    case ok => nofun
  gives  := by
    rcases q' with ⟨e' | a', t⟩
    case error => nofun
    case ok =>
      rintro _ ⟨⟩
      obtain ⟨a, ha, hr⟩ := h.gives a' rfl
      exact ⟨f a, congrArg (·.map f) ha, hs a a' hr⟩

end Precedes

-- What comes of a plan when it is longer: as much, and then the results of the further steps.
def Continued (b b' : Path) (further : List String) (rs rs' : List CheckResult) : Prop :=
  ∃ front block, rs' = front ++ block ∧ List.Forall₂ (CheckResult.Renamed b b') rs front ∧
    block.map (·.name) = further

theorem Bench.runSteps_precedes {b : Bench} {build : Path} {h : Host σ} {h' : Host τ}
    {number : Nat} {steps : List Step} (hp : ∀ step ∈ steps, step.IsPlain) (later : List Step)
    (hv : ∀ program s t, (h.isAvailable program s).1 = (h'.isAvailable program t).1)
    (ha : ∀ c, b.AgreeOn h h' build c) {s : Session σ} {t : Session τ}
    (hi : List.Forall₂ (Invocation.Renamed b.build build) s.issued t.issued) :
    Precedes (Invocation.Renamed b.build build) (Stop.Renamed b.build build)
      (Continued b.build build (later.flatMap Step.names)) (b.runSteps h number steps s)
      ((b.moved build).runSteps h' number (steps ++ later) t) := by
  obtain ⟨events, events', hc, hc', hm, he⟩ := runSteps_matched number hp hv ha s t
  rw [runSteps_append, Audit.bind_apply]
  generalize b.runSteps h number steps s = p, (b.moved build).runSteps h' number steps t = q
    at hc hc' he
  rcases p with ⟨r, s'⟩
  rcases q with ⟨r', t'⟩
  have hi : List.Forall₂ (Invocation.Renamed b.build build) s'.issued t'.issued := by
    rw [hc.issued_eq, hc'.issued_eq]
    exact List.rel_append hi hm
  rcases he.cases_of_strict with ⟨rs, rs', rfl, rfl, hr⟩ | ⟨e, e', rfl, rfl, hr⟩
  case inr => exact .stopped hr hi
  case inl =>
    dsimp only
    obtain ⟨further, hf, hl⟩ := (b.moved build).runSteps_records h' _ later t'
    rw [Audit.bind_apply]
    generalize (b.moved build).runSteps h' _ later t' = q at hf hl
    rcases q with ⟨r', u⟩
    have hi : ∃ front, front <+: u.issued ∧
        List.Forall₂ (Invocation.Renamed b.build build) s'.issued front :=
      ⟨t'.issued, hf.issued_eq ▸ List.prefix_append .., hi⟩
    cases r'
    case error e => exact ⟨hi, nofun, nofun⟩
    case ok block =>
      refine ⟨hi, nofun, ?_⟩
      rintro _ ⟨⟩
      refine ⟨rs, rfl, rs', block, rfl, ?_, hl.names_eq⟩
      exact hr.forall₂ fun c _ _ hr => hr.renamed (ha c)

theorem issued_record (s : Session σ) (host : σ) {e : Event} (he : e.invocation? = none) :
    (s.record host e).issued = s.issued := by
  rw [(Session.Continues.record s host e).issued_eq, Event.issued, List.filterMap_cons, he]
  exact List.append_nil _

theorem withBuild_precedes {names : Path → Prop} {h : Host σ} {h' : Host τ}
    {part : Path → Audit σ α} {part' : Path → Audit τ α'} {R : Path → Path → α → α' → Prop}
    {s : Session σ} {t : Session τ}
    (ho : OpeningsAlike names True (h.openBuild s.host).1 (h'.openBuild t.host).1)
    (hi : ∀ b b', names b → names b' →
      List.Forall₂ (Invocation.Renamed b b') s.issued t.issued)
    (hp : ∀ b b', names b → names b' → ∀ (s : Session σ) (t : Session τ),
      List.Forall₂ (Invocation.Renamed b b') s.issued t.issued →
      Precedes (Invocation.Renamed b b') (Stop.Renamed b b') (R b b') (part b s) (part' b' t)) :
    ∃ b b', names b ∧ names b' ∧
      Precedes (Invocation.Renamed b b') (Stop.Renamed b b') (R b b')
        (Audit.withBuild h part s) (Audit.withBuild h' part' t) := by
  rw [Audit.withBuild, Audit.withBuild]
  generalize h.openBuild s.host = p, h'.openBuild t.host = q at ho
  rcases p with ⟨r, host⟩
  rcases q with ⟨r', host'⟩
  cases ho
  case opened b b' hb hb' =>
    refine ⟨b, b', hb, hb', ?_⟩
    have hp := hp b b' hb hb' (s.record host (.openedBuild b)) (t.record host' (.openedBuild b'))
      (by rw [issued_record _ _ rfl, issued_record _ _ rfl]; exact hi b b' hb hb')
    dsimp only
    generalize part b _ = p, part' b' _ = q at hp
    rcases p with ⟨r, s'⟩
    rcases q with ⟨r', t'⟩
    refine ⟨?_, hp.stops, hp.gives⟩
    rw [issued_record _ _ rfl, issued_record _ _ rfl]
    exact hp.issued
  case none b b' _ _ hb hb' hc =>
    refine ⟨b, b', hb, hb', .stopped (.failure (.buildDirectory hc)) ?_⟩
    rw [issued_record _ _ rfl, issued_record _ _ rfl]
    exact hi b b' hb hb'
  case left hn => exact absurd trivial hn
  case right hn => exact absurd trivial hn

section

variable {names : Path → Prop} {v : Auditor} {h : Host σ}

theorem invokeCompiler_matched {b b' : Path} {table : SignatureTable} {i i' : Invocation}
    {h' : Host τ} (hi : Invocation.Renamed b b' i i')
    (ha : h.AnswerAlike b b' table h' i i') :
    Audit.Matched b b' (ToolRun.Renamed b b' table) (invokeCompiler h i) (invokeCompiler h' i') :=
  .of_records (invokeCompiler_alike ha)
    ((invokeCompiler_records h i).mono fun _ _ => CompilerInvoked.issued_eq)
    ((invokeCompiler_records h' i').mono fun _ _ => CompilerInvoked.issued_eq)
    (.cons hi .nil)

theorem isAvailable_matched {b b' : Path} {program : String} {h' : Host τ}
    (hv : ∀ s t, (h.isAvailable program s).1 = (h'.isAvailable program t).1) :
    Audit.Matched b b' (· = ·) (Audit.isAvailable h program) (Audit.isAvailable h' program) := by
  have hi {events : List Event} {r : Except Stop Bool} (hr : Audit.Asked program events r) :
      Event.issued events = [] := by
    cases hr
    rfl
  exact .of_records (.isAvailable hv) ((Audit.Records.isAvailable h program).mono fun _ _ => hi)
    ((Audit.Records.isAvailable h' program).mono fun _ _ => hi) .nil

theorem askVersion_matched (hs : h.Steady v.signatures names) {b b' : Path} (hb : names b)
    (hb' : names b') :
    Audit.Matched b b' (fun _ _ => True) (v.askVersion h) (v.askVersion h) := by
  refine (isAvailable_matched (hs.isAvailable _)).bind ?_
  rintro available _ rfl
  cases available
  case false => exact .of_records (.stop (.failure (.same _))) (.stop rfl) (.stop rfl) .nil
  case true =>
    have hi : Invocation.Renamed b b' (Toolchain.version v.config) (Toolchain.version v.config) :=
      .same _
    exact (invokeCompiler_matched hi ⟨rfl, hs.invoke b b' hb hb' _ _ hi⟩).bind
      fun _ _ _ => .pure trivial

-- The compiler tells the same version to two validations, or stops both of them.
theorem compilerMajor_matched (hs : h.Steady v.signatures names) {b b' : Path} (hb : names b)
    (hb' : names b') (s t : σ) :
    List.Forall₂ (Invocation.Renamed b b') (v.compilerMajor h (.initial s)).2.issued
        (v.compilerMajor h (.initial t)).2.issued ∧
      Ends True (Stop.Renamed b b') (· = ·) (v.compilerMajor h (.initial s)).1
        (v.compilerMajor h (.initial t)).1 := by
  obtain ⟨events, events', hc, hc', hi, he⟩ :=
    askVersion_matched hs hb hb' (.initial s) (.initial t)
  have ha := askVersion_alike (hostsAgree_of_steady hs) (.initial s) (.initial t)
  rw [compilerMajor, compilerMajor]
  dsimp only [Session.initial] at hc hc' he ha ⊢
  generalize v.askVersion h ⟨s, none, []⟩ = p, v.askVersion h ⟨t, none, []⟩ = q at hc hc' he ha
  rcases p with ⟨r, s'⟩
  rcases q with ⟨r', t'⟩
  have hi : List.Forall₂ (Invocation.Renamed b b') s'.issued t'.issued := by
    rw [hc.issued_eq, hc'.issued_eq]
    exact hi
  rcases he.cases_of_strict with ⟨major, major', rfl, rfl, -⟩ | ⟨e, e', rfl, rfl, hr⟩
  case inl =>
    cases ha
    case done ha => exact ⟨hi, .done ha⟩
  case inr => exact ⟨hi, .stopped hr⟩

theorem buildResults_precedes (hs : h.Steady v.signatures names) {steps : List Step}
    (hp : ∀ step ∈ steps, step.IsPlain) (later : List Step) (s t : σ) :
    ∃ b b', names b ∧ names b' ∧
      Precedes (Invocation.Renamed b b') (Stop.Renamed b b')
        (Continued b b' (later.flatMap Step.names)) (v.buildResults h steps (.initial s))
        (v.buildResults h (steps ++ later) (.initial t)) := by
  obtain ⟨b, hb⟩ := hs.nonempty
  have hm {b b'} (hb : names b) (hb' : names b') := compilerMajor_matched hs hb hb' s t
  rw [buildResults, buildResults, Audit.bind_apply, Audit.bind_apply]
  generalize v.compilerMajor h (.initial s) = p, v.compilerMajor h (.initial t) = q at hm
  rcases p with ⟨r, s'⟩
  rcases q with ⟨r', t'⟩
  obtain ⟨hi, he⟩ := hm hb hb
  rcases he.cases_of_strict with ⟨major, _, rfl, rfl, rfl⟩ | ⟨e, e', rfl, rfl, hr⟩
  case inl =>
    refine withBuild_precedes (hs.openBuild _ _) (fun b b' hb hb' => (hm hb hb').1) ?_
    intro b b' hb hb' s t hi
    exact Bench.runSteps_precedes (b := ⟨v, major, b⟩) hp later hs.isAvailable
      ((hostsAgree_of_steady hs).checks trivial major b b' hb hb') hi
  case inr => exact ⟨b, b, hb, hb, .stopped hr hi⟩

end
end Auditor

-- A scorecard is another one with some checks more, right before the last one.
def Scorecard.Gains (same : Scorecard → Scorecard → Prop) (gained : List String)
    (card card' : Scorecard) : Prop :=
  ∃ front block last, card'.results = front ++ block ++ [last] ∧
    block.map (·.name) = gained ∧ same card { card' with results := front ++ [last] }

theorem Scorecard.Gains.isFullyPassing {same : Scorecard → Scorecard → Prop}
    {gained : List String} {card card' : Scorecard} (h : Gains same gained card card')
    (hs : ∀ card card', same card card' → card'.isFullyPassing = true →
      card.isFullyPassing = true)
    (hp : card'.isFullyPassing = true) : card.isFullyPassing = true := by
  obtain ⟨front, block, last, hr, -, h⟩ := h
  refine hs _ _ h ?_
  simp only [Scorecard.isFullyPassing, hr, List.all_append, Bool.and_eq_true] at hp ⊢
  exact ⟨hp.1.1, hp.2⟩

theorem Scorecard.Renamed.isFullyPassing_eq {b b' : Path} {card card' : Scorecard}
    (h : Scorecard.Renamed b b' card card') : card.isFullyPassing = card'.isFullyPassing := by
  have hr := h.results
  rw [Scorecard.isFullyPassing, Scorecard.isFullyPassing]
  generalize card.results = rs, card'.results = rs' at hr
  induction hr
  case nil => rfl
  case cons h _ hi => rw [List.all_cons, List.all_cons, hi, h.outcome]

namespace Auditor

variable {names : Path → Prop} {v : Auditor} {h : Host σ} {files : FileTree} {directory : Path}

theorem isPlain_of_mem_quickSteps (v : Auditor) (sources : List Artifact) :
    ∀ step ∈ v.quickSteps sources, step.IsPlain := by
  intro step hm
  obtain ⟨a, -, rfl⟩ := List.mem_map.1 hm
  rw [compileStep]
  split
  case isTrue => exact .skipCompile a
  case isFalse => exact .compile _

variable (v) in
-- The names of the checks that only a full validation has.
def deepNames (module : String) (sources : List Artifact) : List String :=
  sources.flatMap (v.sanitizeNames module)
    ++ v.config.staticAnalyzers.flatMap (v.analyzeNames sources)

theorem names_fullSteps (module : String) (sources : List Artifact) :
    (v.fullSteps module sources).flatMap Step.names = v.deepNames module sources := by
  simp [fullSteps, deepNames, List.flatMap_assoc, names_sanitizeSteps, List.flatMap_map,
    names_analyzeStep]

theorem Continued.scorecard_gains {b b' : Path} {further : List String}
    {rs rs' : List CheckResult} (h : Continued b b' further rs rs') (artifacts : Artifacts) :
    Scorecard.Gains (Scorecard.Renamed b b') further (scorecard files directory artifacts rs)
      (scorecard files directory artifacts rs') := by
  obtain ⟨front, block, rfl, hr, hn⟩ := h
  refine ⟨artifacts.presences ++ front, block, Documentation.check files artifacts.documentation,
    ?_, hn, rfl, rfl, rfl, ?_⟩
  · simp only [scorecard, List.append_assoc]
  · have hi (rs : List CheckResult) : List.Forall₂ (CheckResult.Renamed b b') rs rs :=
      List.forall₂_same.2 fun _ _ => .refl _
    exact List.rel_append (List.rel_append (hi _) hr) (hi _)

-- The results of a plan have the names that its steps announce.
theorem buildResults_names {steps : List Step} {s : Session σ} {results : List CheckResult}
    (hr : (v.buildResults h steps s).1 = .ok results) :
    results.map (·.name) = steps.flatMap Step.names := by
  rw [buildResults, Audit.bind_apply] at hr
  rcases hm : v.compilerMajor h s with ⟨e | major, t⟩ <;> rw [hm] at hr
  case error => cases hr
  case ok =>
    obtain ⟨_, _, hb⟩ := Audit.Records.withBuild h (fun build =>
      Bench.runSteps_records ⟨v, major, build⟩ h 1 steps) t
    dsimp only at hr
    rw [hr] at hb
    cases hb
    case opened hs => exact hs.names_eq

-- A pattern passes: its validation ends, and nothing counts against the pattern.
def Passes (q : Except Stop Scorecard × Session σ) : Prop :=
  ∃ card, q.1 = .ok card ∧ card.isFullyPassing = true

theorem Precedes.passes {I : Invocation → Invocation → Prop} {E : Stop → Stop → Prop}
    {R : Scorecard → Scorecard → Prop} {q q' : Except Stop Scorecard × Session σ}
    (h : Precedes I E R q q')
    (hr : ∀ card card', R card card' → card'.isFullyPassing = true → card.isFullyPassing = true)
    (hp : Passes q') : Passes q := by
  obtain ⟨card', hc', hp⟩ := hp
  obtain ⟨card, hc, h⟩ := h.gives card' hc'
  exact ⟨card, hc, hr _ _ h hp⟩

-- Three validations of a pattern: without anything built, quick and in full.
structure Nested (v : Auditor) (names : Path → Prop) (files : FileTree) (directory : Path)
    (skipped quick full : Except Stop Scorecard × Session σ) : Prop where
  unbuilt   : skipped.2.issued = []
  compiled  : Precedes (· = ·) (· = ·)
    (fun card card' => ∃ artifacts, Artifacts.discover files directory = .ok artifacts ∧
      Scorecard.Gains (· = ·) (compileNames artifacts.sources) card card') skipped quick
  deepened  : ∃ b b', names b ∧ names b' ∧
    Precedes (Invocation.Renamed b b') (Stop.Renamed b b')
      (fun card card' => ∃ artifacts, Artifacts.discover files directory = .ok artifacts ∧
        Scorecard.Gains (Scorecard.Renamed b b')
          (v.deepNames (Course.moduleName directory) artifacts.sources) card card') quick full
  fullPass  : Passes full → Passes quick
  quickPass : Passes quick → Passes skipped

theorem quick_precedes_full (hs : h.Steady v.signatures names) (files : FileTree)
    (directory : Path) (s t : σ) :
    ∃ b b', names b ∧ names b' ∧
      Precedes (Invocation.Renamed b b') (Stop.Renamed b b')
        (fun card card' => ∃ artifacts, Artifacts.discover files directory = .ok artifacts ∧
          Scorecard.Gains (Scorecard.Renamed b b')
            (v.deepNames (Course.moduleName directory) artifacts.sources) card card')
        (v.validate files h directory ⟨.quick, false⟩ (.initial s))
        (v.validate files h directory ⟨.full, false⟩ (.initial t)) := by
  rcases hd : Artifacts.discover files directory with f | artifacts
  case error =>
    obtain ⟨b, hb⟩ := hs.nonempty
    rw [validate_of_undiscovered hd, validate_of_undiscovered hd]
    exact ⟨b, b, hb, hb, .stopped (.failure (.same _)) .nil⟩
  case ok =>
    obtain ⟨b, b', hb, hb', hp⟩ := buildResults_precedes hs
      (v.isPlain_of_mem_quickSteps artifacts.sources)
      (v.fullSteps (Course.moduleName directory) artifacts.sources) s t
    rw [validate_of_discover hd rfl, validate_of_discover hd rfl]
    refine ⟨b, b', hb, hb', hp.map fun rs rs' hr => ⟨artifacts, rfl, ?_⟩⟩
    exact names_fullSteps (v := v) _ _ ▸ hr.scorecard_gains artifacts

-- Here nothing is asked of the host by the first validation, so that the host may be any.
theorem skipped_precedes_quick (v : Auditor) (h : Host σ) (files : FileTree) (directory : Path)
    (mode : Mode) (s t : σ) :
    Precedes (· = ·) (· = ·)
      (fun card card' => ∃ artifacts, Artifacts.discover files directory = .ok artifacts ∧
        Scorecard.Gains (· = ·) (compileNames artifacts.sources) card card')
      (v.validate files h directory ⟨mode, true⟩ (.initial s))
      (v.validate files h directory ⟨.quick, false⟩ (.initial t)) := by
  rcases hd : Artifacts.discover files directory with f | artifacts
  case error =>
    rw [validate_of_undiscovered hd, validate_of_undiscovered hd]
    exact .stopped rfl .nil
  case ok =>
    rw [validate_of_skipBuild hd rfl, validate_of_discover hd rfl]
    refine ⟨⟨[], List.nil_prefix, .nil⟩, nofun, fun card hc => ?_⟩
    rcases hr : v.buildResults h (v.steps .quick (Course.moduleName directory) artifacts.sources)
      (.initial t) with ⟨e | built, u⟩ <;> rw [hr] at hc
    case error => cases hc
    case ok =>
      rw [← Except.ok.inj hc]
      refine ⟨_, rfl, artifacts, rfl, artifacts.presences, built,
        Documentation.check files artifacts.documentation, rfl, ?_, rfl⟩
      exact (buildResults_names (congrArg (·.1) hr)).trans (names_quickSteps v artifacts.sources)

variable {names : Path → Prop} {v : Auditor} {h : Host σ}

-- What a pattern is found to be in one mode, it is found to be in every smaller one. The three
-- validations may meet the host in different states. A host is steady if it gives equal answers
-- whatever the directories are called (`Host.Blind.steady`), or else if no signature tells apart
-- what its answers say of them (`ReadAlike`).
theorem validate_by_mode (hs : h.Steady v.signatures names) (files : FileTree) (directory : Path)
    (mode : Mode) (s t u : σ) :
    v.Nested names files directory (v.validate files h directory ⟨mode, true⟩ (.initial s))
      (v.validate files h directory ⟨.quick, false⟩ (.initial t))
      (v.validate files h directory ⟨.full, false⟩ (.initial u)) where
  unbuilt   := by
    rcases hd : Artifacts.discover files directory with f | artifacts
    case error => rw [validate_of_undiscovered hd]; rfl
    case ok => rw [validate_of_skipBuild hd rfl]; rfl
  compiled  := skipped_precedes_quick v h files directory mode s t
  deepened  := quick_precedes_full hs files directory t u
  fullPass  := by
    obtain ⟨b, b', -, -, hp⟩ := quick_precedes_full hs files directory t u
    refine hp.passes ?_
    rintro card card' ⟨artifacts, -, hg⟩
    exact hg.isFullyPassing fun _ _ hr => hr.isFullyPassing_eq.trans
  quickPass := by
    refine (skipped_precedes_quick v h files directory mode s t).passes ?_
    rintro card card' ⟨artifacts, -, hg⟩
    exact hg.isFullyPassing fun _ _ hr => hr ▸ id

end Auditor

namespace Sample

-- Each validation has a directory of its own.
theorem full_extends_quick_on_quietHost :
    ∃ (quick full : Scorecard) (front block : List CheckResult) (last : CheckResult) (b b' : Path),
      IsBuild b ∧ IsBuild b' ∧
      (auditor.validate files quietHost directory ⟨.quick, false⟩ (.initial 3)).1 = .ok quick ∧
      (auditor.validate files quietHost directory ⟨.full, false⟩ (.initial 0)).1 = .ok full ∧
      List.Forall₂ (CheckResult.Renamed b b') quick.results (front ++ [last]) ∧
      full.results = front ++ block ++ [last] ∧
      block.map (·.name) = [
        "asan:queue_vulnerabilities.cpp", "tsan:queue_vulnerabilities.cpp",
        "asan:secure_queue_alternatives.cpp", "tsan:secure_queue_alternatives.cpp",
        "ubsan:secure_queue_alternatives.cpp", "exploit-manual-review:queue_exploits.cpp",
        "cppcheck:secure_queue_alternatives.cpp", "clang-tidy:secure_queue_alternatives.cpp"] := by
  have hs : quietHost.Steady auditor.signatures IsBuild := quietHost_blind.steady _
  have hn := Auditor.validate_by_mode hs files directory .quick 5 3 0
  obtain ⟨b, b', hb, hb', hp⟩ := hn.deepened
  obtain ⟨full, u, hv, -⟩ := validate_quietHost
  have hv := congrArg Prod.fst hv
  obtain ⟨quick, hq, artifacts', hd, front, block, last, hf, hn, hr⟩ := hp.gives full hv
  cases discover_eq.symm.trans hd
  exact ⟨quick, full, front, block, last, b, b', hb, hb', hq, hv, hr.results, hf,
    hn.trans (by decide +kernel)⟩

end Sample
end CourseAudit
