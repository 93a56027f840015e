import CourseAudit.Audit.Batch
import CourseAudit.Proofs.Agreement
import CourseAudit.Proofs.CheckNames

/-!
The patterns of a course are validated as if each of them were the only one. The validations share
what is known of the compiler, and they go on after one that failed or broke down, but none of this
shows in a scorecard. Main statement: `validateCourse_alike`.
-/
namespace CourseAudit

variable {σ : Type} {names : Path → Prop} {h : Host σ} {v : Auditor}

theorem AuditFailure.Renamed.message {b b' : Path} {f f' : AuditFailure}
    (hf : AuditFailure.Renamed b b' f f') : CourseAudit.Renamed b b' f.message f'.message := by
  cases hf
  case same => exact .same _
  case toolchainMissing hc => exact .append (.append (.same _) hc) (.same _)
  case buildDirectory => exact .same _
  case tool hf => exact hf.message

theorem AuditFailure.Renamed.causes {b b' : Path} {f f' : AuditFailure}
    (hf : AuditFailure.Renamed b b' f f') :
    List.Forall₂ (CourseAudit.Renamed b b') f.causes f'.causes := by
  cases hf
  case same => exact forall₂_renamed_refl _
  case toolchainMissing => exact .nil
  case buildDirectory hc => exact hc
  case tool hf => exact hf.causes

theorem AuditFailure.Renamed.chain {b b' : Path} {f f' : AuditFailure}
    (hf : AuditFailure.Renamed b b' f f') : CourseAudit.Renamed b b' f.chain f'.chain := by
  have go {text text' : String} {causes causes' : List String}
      (ht : CourseAudit.Renamed b b' text text')
      (hc : List.Forall₂ (CourseAudit.Renamed b b') causes causes') :
      CourseAudit.Renamed b b' (causes.foldl (fun text cause => text ++ ": " ++ cause) text)
        (causes'.foldl (fun text cause => text ++ ": " ++ cause) text') := by
    induction hc generalizing text text'
    case nil => exact ht
    case cons hc _ hi => exact hi (.append (.append ht (.same _)) hc)
  exact go hf.message hf.causes

theorem Stop.Renamed.message {b b' : Path} {e e' : Stop} (he : Stop.Renamed b b' e e') :
    CourseAudit.Renamed b b' e.message e'.message := by
  cases he
  case failure hf => exact hf.chain
  case breakdown hm =>
    refine .append (.same _) ?_
    cases hm
    case some hm => exact hm
    case none => exact .same _

-- A failure is told from the nearest cause to the farthest.
theorem AuditFailure.chain_eq (f : AuditFailure) :
    f.chain = Text.joinStrings ": " (f.message :: f.causes) := by
  have go (text : String) (causes : List String) :
      causes.foldl (fun text cause => text ++ ": " ++ cause) text =
        Text.joinStrings ": " (text :: causes) := by
    induction causes generalizing text
    case nil => exact String.ofList_toList.symm
    case cons cause rest hi =>
      rw [List.foldl_cons, hi]
      cases rest <;> simp [Text.joinStrings, Text.join, String.toList_append]
  exact go ..

theorem ResultsAlike.forall₂ {b b' : Path} {R : Check → CheckResult → CheckResult → Prop}
    {cs : List Check} {rs rs' : List CheckResult} (h : ResultsAlike R cs rs rs')
    (hr : ∀ c r r', R c r r' → CheckResult.Renamed b b' r r') :
    List.Forall₂ (CheckResult.Renamed b b') rs rs' := by
  induction h
  case nil => exact .nil
  case cons h _ hi => exact .cons (hr _ _ _ h) hi

namespace Auditor

-- The scorecard that a validation on its own is worth. What stopped it is told in full.
def isolated (directory : Path) : Except Stop Scorecard → Scorecard
  | .ok card => card
  | .error (.failure f) =>
    .fault (Course.patternName directory) (Course.moduleName directory) directory
      (Text.joinStrings ": " (f.message :: f.causes))
  | .error (.breakdown message) =>
    .fault (Course.patternName directory) (Course.moduleName directory) directory
      ("validation panicked: " ++ message.getD "unknown panic payload")

theorem scorecardOf_eq_isolated (directory : Path) (r : Except Stop Scorecard) :
    scorecardOf directory r = isolated directory r := by
  rcases r with (f | message) | card
  case error.failure => exact congrArg (Scorecard.fault _ _ directory) f.chain_eq
  case error.breakdown => rfl
  case ok => rfl

theorem hostsAgree_of_steady (hs : h.Steady v.signatures names) :
    HostsAgree True v names h h where
  nonempty    := hs.nonempty
  isAvailable := hs.isAvailable
  version b hb := ⟨rfl, hs.invoke b b hb hb _ _ (.same _)⟩
  openBuild   := hs.openBuild
  checks _ major b b' hb hb' _ _ ha :=
    have hr := Bench.ask_renamed ⟨v, major, b⟩ b' ha
    ⟨hr.tool, hs.invoke b b' hb hb' _ _ hr⟩

theorem fault_renamed {b b' : Path} (patternName module : String) (directory : Path)
    {message message' : String} (hm : CourseAudit.Renamed b b' message message') :
    Scorecard.Renamed b b' (.fault patternName module directory message)
      (.fault patternName module directory message') :=
  ⟨rfl, rfl, rfl, .cons ⟨rfl, rfl, hm⟩ .nil⟩

-- Two validations of a pattern on a steady host give the same scorecard, or stop for the same
-- reason.
theorem scorecardOf_alike (hs : h.Steady v.signatures names) {files : FileTree} {directory : Path}
    {options : Options} {s t : Session σ} (hk : s.Knows v h) (hk' : t.Knows v h) :
    ∃ b b', names b ∧ names b' ∧ Scorecard.Renamed b b'
      (scorecardOf directory (v.validate files h directory options s).1)
      (scorecardOf directory (v.validate files h directory options t).1) := by
  have ha := hostsAgree_of_steady hs
  have he : Ends True _ _ (v.validate files h directory options s).1
      (v.validate files h directory options t).1 := validate_ends ha hk hk'
  rcases hr : (v.validate files h directory options s).1 with e | card <;>
    rcases hr' : (v.validate files h directory options t).1 with e' | card' <;>
    rw [hr, hr'] at he <;> cases he
  case error.error.stopped he =>
    have ⟨b, b', hb, hb', he⟩ := he
    exact ⟨b, b', hb, hb', fault_renamed _ _ _ he.message⟩
  case ok.ok.done he =>
    have ⟨_, b, b', major, _, hb, hb', _, hc⟩ := he
    refine ⟨b, b', hb, hb', hc.patternName, hc.module, hc.directory, ?_⟩
    exact hc.results.forall₂ fun c _ _ hr => hr.renamed <| ha.checks trivial major b b' hb hb' c
  all_goals exact absurd trivial ‹_›

end Auditor

-- A part of a validation that leaves a session in good order, however the part ends.
def Audit.Keeps {α : Type} (I : Session σ → Prop) (x : Audit σ α) : Prop :=
  ∀ s, I s → I (x s).2

namespace Audit.Keeps

variable {α β : Type} {I : Session σ → Prop} {x : Audit σ α} {f : α → Audit σ β}

theorem bind (hx : Keeps I x) (hf : ∀ a, Keeps I (f a)) : Keeps I (x >>= f) := by
  intro s hi
  have hi := hx s hi
  rw [bind_apply]
  generalize x s = p at hi
  rcases p with ⟨_ | a, t⟩
  case error => exact hi
  case ok => exact hf a t hi

theorem of_records {P : List Event → Except Stop α → Prop} (hx : x.Records P) :
    Keeps (Session.Knows v h) x := by
  intro s hk major hm
  have ⟨_, hc, _⟩ := hx s
  exact hk major (hc.compiler ▸ hm)

end Audit.Keeps

namespace Auditor

-- The version of the compiler is stored when it was told, and it would be told again.
theorem compilerMajor_keeps_knows (hs : h.Steady v.signatures names) :
    (v.compilerMajor h).Keeps (Session.Knows v h) := by
  rintro ⟨host, _ | major, journal⟩ hk
  case some => exact hk
  case none =>
    have ha (t : Session σ) := askVersion_alike (hostsAgree_of_steady hs) ⟨host, none, journal⟩ t
    obtain ⟨_, hc, _⟩ := v.askVersion_records h ⟨host, none, journal⟩
    rw [compilerMajor]
    generalize v.askVersion h ⟨host, none, journal⟩ = p at ha hc
    rcases p with ⟨e | major, t⟩
    case error =>
      intro major hm
      cases hc.compiler.symm.trans hm
    case ok =>
      intro _ hm t
      have ha := ha t
      obtain rfl := Option.some.inj hm
      rcases hr : (v.askVersion h t).1 with e | major' <;> rw [hr] at ha <;> cases ha
      case ok.done he => rw [he]
      case error.right hn => exact absurd trivial hn

theorem buildResults_keeps_knows (hs : h.Steady v.signatures names) (steps : List Step) :
    (v.buildResults h steps).Keeps (Session.Knows v h) := by
  refine .bind (compilerMajor_keeps_knows hs) fun major => ?_
  exact .of_records <| .withBuild h fun build =>
    Bench.runSteps_records ⟨v, major, build⟩ h 1 steps

theorem validate_keeps_knows (hs : h.Steady v.signatures names) (files : FileTree)
    (directory : Path) (options : Options) :
    (v.validate files h directory options).Keeps (Session.Knows v h) := by
  intro s hk
  rcases hd : Artifacts.discover files directory with f | artifacts
  case error =>
    rw [validate_of_undiscovered hd]
    exact hk
  case ok =>
    rcases ho : options.skipBuild
    case true =>
      rw [validate_of_skipBuild hd ho]
      exact hk
    case false =>
      rw [validate_of_discover hd ho]
      exact buildResults_keeps_knows hs _ s hk

theorem validateAll_alike (hs : h.Steady v.signatures names) (files : FileTree) (options : Options)
    (patterns : List Path) {s : Session σ} (hk : s.Knows v h) :
    List.Forall₂
      (fun directory card => ∀ t, ∃ b b', names b ∧ names b' ∧ Scorecard.Renamed b b' card
        (isolated directory (v.validate files h directory options (.initial t)).1))
      patterns (v.validateAll files h options patterns s).1 := by
  induction patterns generalizing s
  case nil => exact .nil
  case cons directory rest hi =>
    refine .cons (fun t => ?_) (hi <| validate_keeps_knows hs files directory options s hk)
    rw [← scorecardOf_eq_isolated]
    exact scorecardOf_alike hs hk (Session.knows_initial v h t)

end Auditor

namespace Sample

-- A course with two patterns, each with one source.
def course : FileTree where
  root := .directory [("07-concurrency", .directory [
    ("lesson_7_1_queue", .directory [("secure_queue_alternatives.cpp", .file [] false)]),
    ("lesson_7_2_pool", .directory [("pool_vulnerabilities.cpp", .file [] false)])])]
  cwd := []

def pool : Path := ⟨"/07-concurrency/lesson_7_2_pool"⟩

theorem findPatterns_course : Course.findPatterns course ⟨"/"⟩ = .ok [directory, pool] := by
  have hr : course.list ⟨"/"⟩ = .ok [⟨"07-concurrency", .directory⟩] :=
    congrArg Except.ok (List.mergeSort_of_pairwise (by decide +kernel))
  have hm : course.list ⟨"/07-concurrency"⟩ =
      .ok [⟨"lesson_7_1_queue", .directory⟩, ⟨"lesson_7_2_pool", .directory⟩] :=
    congrArg Except.ok (List.mergeSort_of_pairwise (by decide +kernel))
  have hj : (⟨"/"⟩ : Path).join "07-concurrency" = ⟨"/07-concurrency"⟩ := by decide +kernel
  have hp : Course.patternsOfModule course ⟨"/07-concurrency"⟩ = [directory, pool] := by
    rw [Course.patternsOfModule, Course.subdirectories, hm]
    decide +kernel
  have hs : (Course.subdirectories course ⟨"/"⟩).filter Course.isModuleName =
      ["07-concurrency"] := by
    rw [Course.subdirectories, hr]
    decide +kernel
  rw [Course.findPatterns, hr]
  exact congrArg Except.ok <| by rw [Course.patternsBelow, hs, List.flatMap_singleton, hj, hp]

-- A machine that breaks down when it runs an analyzer, and that has a new name for every directory.
def fragileHost : Host Nat where
  isAvailable _ made := (true, made)
  invoke i made :=
    match i.tool with
    | .analyzer _ => (.broke (some "out of memory"), made)
    | _ => (.ran ⟨some 0, "", false⟩, made)
  openBuild made := (.ok ⟨"/tmp/build-" ++ toString made⟩, made + 1)
  closeBuild _ made := made

theorem fragileHost_blind :
    fragileHost.Blind fun b => ∃ made : Nat, b = ⟨"/tmp/build-" ++ toString made⟩ where
  nonempty          := ⟨_, 0, rfl⟩
  isAvailable _ _ _ := rfl
  openBuild s t     := .opened ⟨s, rfl⟩ ⟨t, rfl⟩
  invoke b b' _ _ i i' hr s t := by
    simp only [fragileHost, ← hr.tool]
    split <;> rfl

end Sample

namespace Auditor

-- On a steady host, each scorecard of a course is that of a validation of the pattern on its own,
-- from any state of the host and with nothing known of the compiler. A host is steady if it gives
-- equal answers whatever the directories are called (`Host.Blind.steady`), or else if no signature
-- tells apart what its answers say of them (`ReadAlike`).
theorem validateCourse_alike (hs : h.Steady v.signatures names) {files : FileTree} {root : Path}
    {patterns : List Path} (hp : Course.findPatterns files root = .ok patterns) (options : Options)
    (s : σ) :
    ∃ cards, (v.validateCourse files h root options (.initial s)).1 = .ok cards ∧
      List.Forall₂
        (fun directory card => ∀ t, ∃ b b', names b ∧ names b' ∧ Scorecard.Renamed b b' card
          (isolated directory (v.validate files h directory options (.initial t)).1))
        patterns cards := by
  refine ⟨(v.validateAll files h options patterns (.initial s)).1, ?_, ?_⟩
  · rw [validateCourse, hp]
  · exact validateAll_alike hs files options patterns (Session.knows_initial v h s)

end Auditor

namespace Sample

theorem scorecards_of_fragile_tools :
    ∃ cards : List Scorecard,
      (auditor.validateCourse course fragileHost ⟨"/"⟩ ⟨.full, false⟩ (.initial 0)).1 =
        .ok cards ∧
      List.Forall₂
        (fun directory card => ∃ b b', Scorecard.Renamed b b' card
          (Auditor.isolated directory
            (auditor.validate course fragileHost directory ⟨.full, false⟩ (.initial 7)).1))
        [directory, pool] cards := by
  have ⟨cards, hv, hc⟩ := Auditor.validateCourse_alike (v := auditor)
    (fragileHost_blind.steady _) findPatterns_course ⟨.full, false⟩ 0
  refine ⟨cards, hv, hc.imp fun directory card h => ?_⟩
  have ⟨b, b', _, _, h⟩ := h 7
  exact ⟨b, b', h⟩

end Sample
end CourseAudit
