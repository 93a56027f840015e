import CourseAudit.Proofs.Agreement
import CourseAudit.Proofs.CheckNames
import CourseAudit.Proofs.Outputs

/-!
No check of a pattern has an influence on another one. If the tools answer differently for one check
only, be it by failing or by making the runs of a program more or fewer, then all other results stay
as they are. Main statement: `results_alike_but`.
-/
namespace CourseAudit

variable {σ τ : Type}

-- The number of the output that a check makes, if it makes one.
def Check.number? : Check → Option Nat
  | .compile number _ | .sanitize number .. => some number
  | _ => none

-- The two checks do not make the same output.
def Check.Apart (c d : Check) : Prop :=
  ∀ number, c.number? = some number → d.number? ≠ some number

theorem Step.number_of_mem_checks {step : Step} {number n : Nat} {c : Check}
    (hc : c ∈ step.checks number) (hn : c.number? = some n) : n = number ∧ step.builds = 1 := by
  cases step <;> simp only [checks, List.mem_singleton, List.mem_map] at hc
  case compile => cases hc; cases hn; exact ⟨rfl, rfl⟩
  case sanitize => cases hc; cases hn; exact ⟨rfl, rfl⟩
  case analyze =>
    have ⟨_, _, hc⟩ := hc
    cases hc
    cases hn
  all_goals
    cases hc
    cases hn

theorem Step.pairwise_checks (step : Step) (number : Nat) :
    (step.checks number).Pairwise Check.Apart := by
  cases step <;> try exact List.pairwise_singleton ..
  case analyze analyzer subjects =>
    exact List.pairwise_map.2 <| List.pairwise_of_forall fun _ _ _ => nofun

theorem le_of_mem_stepsChecks {steps : List Step} {number n : Nat} {c : Check}
    (hc : c ∈ stepsChecks number steps) (hn : c.number? = some n) : number ≤ n := by
  induction steps generalizing number
  case nil => cases hc
  case cons step rest hi =>
    rcases List.mem_append.1 hc with hc | hc
    case inl => exact Nat.le_of_eq (Step.number_of_mem_checks hc hn).1.symm
    case inr => exact Nat.le_trans (Nat.le_add_right ..) (hi hc)

theorem pairwise_stepsChecks (number : Nat) (steps : List Step) :
    (stepsChecks number steps).Pairwise Check.Apart := by
  induction steps generalizing number
  case nil => exact .nil
  case cons step rest hi =>
    refine List.pairwise_append.2 ⟨step.pairwise_checks number, hi _, fun c hc d hd n hn hn' => ?_⟩
    have ⟨he, hb⟩ := Step.number_of_mem_checks hc hn
    have := le_of_mem_stepsChecks hd hn'
    omega

-- A program is built and run for a sanitizer only.
def Check.IsPlanned : Check → Prop
  | .sanitize _ _ tool => tool.isSanitizer = true
  | _ => True

theorem Step.isPlanned_of_mem_checks {step : Step} (hs : step.IsPlanned) {number : Nat} {c : Check}
    (hc : c ∈ step.checks number) : c.IsPlanned := by
  cases step <;> simp only [checks, List.mem_singleton, List.mem_map] at hc
  case sanitize => exact hc ▸ hs
  case analyze =>
    obtain ⟨_, _, rfl⟩ := hc
    trivial
  all_goals exact hc ▸ trivial

theorem isPlanned_of_mem_stepsChecks {steps : List Step} (hs : ∀ step ∈ steps, step.IsPlanned)
    {number : Nat} {c : Check} (hc : c ∈ stepsChecks number steps) : c.IsPlanned := by
  induction steps generalizing number
  case nil => cases hc
  case cons step rest hi =>
    have ⟨hs, hr⟩ := List.forall_mem_cons.1 hs
    rcases List.mem_append.1 hc with hc | hc
    case inl => exact Step.isPlanned_of_mem_checks hs hc
    case inr => exact hi hr hc

theorem Tool.slash_not_mem_shortName {tool : Tool} (h : tool.isSanitizer = true) :
    '/' ∉ tool.shortName.toList := by
  cases tool <;> first | decide | cases h

namespace Auditor

-- The invocations that a check is made of. The version of the compiler does not matter here.
def Issues (v : Auditor) (build : Path) (c : Check) (i : Invocation) : Prop :=
  ∃ ask ∈ c.asks, ask ⟨v, none, build⟩ = i

-- An invocation belongs to the check at one place of a list and to no other.
def IssuesOnlyAt (v : Auditor) (checks : List Check) (p : Nat) (build : Path) (i : Invocation) :
    Prop :=
  ∀ q, (∃ c, checks[q]? = some c ∧ v.Issues build c i) ↔ q = p

-- An invocation of one check only, by some name that the directory for builds may have.
def Owns (v : Auditor) (names : Path → Prop) (checks : List Check) (p : Nat) (i : Invocation) :
    Prop :=
  ∃ b, names b ∧ v.IssuesOnlyAt checks p b i

-- Two hosts agree on everything but the invocations of one check, in all of their states and for
-- all names that their directories for builds may have. A name that their answers show is told
-- apart by no signature (`ReadAlike`).
structure AgreeBut (v : Auditor) (names : Path → Prop) (checks : List Check) (p : Nat) (h : Host σ)
    (h' : Host τ) : Prop where
  nonempty    : ∃ b, names b
  openBuild   : ∀ s b, (h.openBuild s).1 = .ok b → names b
  openBuild'  : ∀ t b, (h'.openBuild t).1 = .ok b → names b
  isAvailable : ∀ program s t, (h.isAvailable program s).1 = (h'.isAvailable program t).1
  invoke      : ∀ b b', names b → names b' → ∀ i i', Invocation.Renamed b b' i i' →
    ¬v.Owns names checks p i → ¬v.Owns names checks p i' →
    ∀ s t, Answer.Renamed b b' (v.signatures.signaturesFor i.tool) (h.invoke i s).1
      (h'.invoke i' t).1

variable {v : Auditor} {names : Path → Prop} {checks : List Check} {p : Nat} {h : Host σ}
variable {h' : Host τ}

theorem not_issues_version (build : Path) (c : Check) :
    ¬v.Issues build c (Toolchain.version v.config) := by
  rintro ⟨ask, ha, hi⟩
  have hb (number : Nat) (a : Artifact) (sanitizer : Option Tool) :
      (Bench.mk v none build).building number a sanitizer ≠ Toolchain.version v.config :=
    fun hi => Bench.args_building_ne_version _ number a sanitizer (congrArg (·.args) hi)
  cases Check.mem_asks.1 ha
  case compile => exact hb _ _ _ hi
  case build => exact hb _ _ _ hi
  case run =>
    have := congrArg (·.args) hi
    simp [Bench.args_running, Toolchain.version, Invocation.addArgs] at this
  case analyze => cases congrArg (·.tool) hi

theorem Issues.concerns {build : Path} {c : Check} {n : Nat} {i : Invocation}
    (hi : v.Issues build c i) (hn : c.number? = some n) : (Bench.mk v none build).Concerns n i := by
  obtain ⟨ask, ha, rfl⟩ := hi
  cases Check.mem_asks.1 ha <;> cases hn
  case compile => exact .building ..
  case build => exact .building ..
  case run => exact .running ..

theorem Issues.not_concerns {build : Path} {c : Check} {n : Nat} {i : Invocation}
    (hi : v.Issues build c i) (hn : c.number? = none) :
    ¬(Bench.mk v none build).Concerns n i := by
  obtain ⟨ask, ha, rfl⟩ := hi
  cases Check.mem_asks.1 ha <;> cases hn
  case analyze => exact Bench.not_concerns_analyzing

-- An analyzer is asked the same whatever the directory is called.
theorem Issues.moved {build : Path} {c : Check} {i : Invocation} (hi : v.Issues build c i)
    (hn : c.number? = none) (build' : Path) : v.Issues build' c i := by
  obtain ⟨ask, ha, rfl⟩ := hi
  refine ⟨ask, ha, ?_⟩
  cases Check.mem_asks.1 ha <;> cases hn
  case analyze => rfl

theorem Issues.exists_product {build : Path} {c : Check} {n : Nat} {i : Invocation}
    (hi : v.Issues build c i) (hp : c.IsPlanned) (hn : c.number? = some n) :
    ∃ tool a, '/' ∉ tool.shortName.toList ∧ i.product = (outputPath build n tool a).text := by
  obtain ⟨ask, ha, rfl⟩ := hi
  cases Check.mem_asks.1 ha <;> cases hn
  case compile => exact ⟨.compiler, _, by decide, Bench.product_building ..⟩
  case build tool =>
    exact ⟨tool, _, Tool.slash_not_mem_shortName hp, Bench.product_building ..⟩
  case run tool => exact ⟨tool, _, Tool.slash_not_mem_shortName hp, Bench.product_running ..⟩

-- Not even in different directories do two checks share an invocation about an output.
theorem Issues.number_eq {build build' : Path} {c d : Check} {m n : Nat} {i : Invocation}
    (hi : v.Issues build c i) (hi' : v.Issues build' d i) (hp : c.IsPlanned) (hp' : d.IsPlanned)
    (hm : c.number? = some m) (hn : d.number? = some n) : m = n := by
  have ⟨_, _, ht, ho⟩ := hi.exists_product hp hm
  have ⟨_, _, ht', ho'⟩ := hi'.exists_product hp' hn
  exact number_eq_of_outputPath_text_eq ht ht' (ho.symm.trans ho')

theorem isPlanned_of_mem_checks {options : Options} {module : String} {sources : List Artifact}
    {c : Check} (hc : c ∈ v.checks options module sources) : c.IsPlanned := by
  have hi {c : Check} (hc : c ∈ [Check.idle, .idle]) : c.IsPlanned := by
    simp only [List.mem_cons, List.not_mem_nil, or_false, or_self] at hc
    exact hc ▸ trivial
  rcases List.mem_append.1 hc with hc | hc
  case inr => exact hi (List.mem_cons_of_mem _ hc)
  case inl =>
    rcases List.mem_append.1 hc with hc | hc
    case inl => exact hi hc
    case inr =>
      split at hc
      case isTrue => cases hc
      case isFalse => exact isPlanned_of_mem_stepsChecks (fun _ => isPlanned_of_mem_steps) hc

theorem pairwise_checks (v : Auditor) (options : Options) (module : String)
    (sources : List Artifact) : (v.checks options module sources).Pairwise Check.Apart := by
  have hi (c : Check) : Check.idle.Apart c := nofun
  have hi' (c : Check) : c.Apart .idle := fun _ _ => nofun
  refine .cons (fun _ _ => hi _) <| .cons (fun _ _ => hi _) <| List.pairwise_append.2
    ⟨?_, List.pairwise_singleton .., fun c _ d hd => List.mem_singleton.1 hd ▸ hi' c⟩
  split
  case isTrue => exact .nil
  case isFalse => exact pairwise_stepsChecks ..

theorem eq_of_number_eq {checks : List Check} (h : checks.Pairwise Check.Apart) {p q n : Nat}
    {c d : Check} (hc : checks[p]? = some c) (hd : checks[q]? = some d) (hn : c.number? = some n)
    (hn' : d.number? = some n) : q = p := by
  have ⟨hp, hc⟩ := List.getElem?_eq_some_iff.1 hc
  have ⟨hq, hd⟩ := List.getElem?_eq_some_iff.1 hd
  rw [List.pairwise_iff_getElem] at h
  rcases Nat.lt_trichotomy q p with hl | he | hl
  case inl => exact absurd (hc ▸ hn) (h q p hq hp hl n (hd ▸ hn'))
  case inr.inl => exact he
  case inr.inr => exact absurd (hd ▸ hn') (h p q hp hq hl n (hc ▸ hn))

-- The builds and the runs of a check belong to no other check.
theorem issuesOnlyAt_of_number {options : Options} {module : String} {sources : List Artifact}
    {c : Check} {n : Nat} {build : Path} {i : Invocation}
    (hc : (v.checks options module sources)[p]? = some c) (hn : c.number? = some n)
    (hi : v.Issues build c i) : v.IssuesOnlyAt (v.checks options module sources) p build i := by
  refine fun q => ⟨fun ⟨d, hd, hi'⟩ => ?_, fun hq => ⟨c, hq ▸ hc, hi⟩⟩
  rcases hn' : d.number? with _ | m
  case none => exact absurd (hi.concerns hn) (hi'.not_concerns hn')
  case some =>
    cases (hi.concerns hn).number_eq (hi'.concerns hn')
    exact eq_of_number_eq (pairwise_checks ..) hc hd hn hn'

-- What a check at another place asks is no business of the one check alone, whatever its directory
-- is called.
theorem not_owns_of_issues {options : Options} {module : String} {sources : List Artifact}
    {c : Check} {q : Nat} {build : Path} {i : Invocation}
    (hc : (v.checks options module sources)[q]? = some c) (hi : v.Issues build c i) (hq : q ≠ p) :
    ¬v.Owns names (v.checks options module sources) p i := by
  rintro ⟨b, _, ho⟩
  have ⟨d, hd, hi'⟩ := (ho p).2 rfl
  have hm {e : Check} {r : Nat} (he : (v.checks options module sources)[r]? = some e) :
      e.IsPlanned := isPlanned_of_mem_checks (List.mem_of_getElem? he)
  rcases hn : c.number? with _ | n
  case none => exact hq ((ho q).1 ⟨c, hc, hi.moved hn b⟩)
  case some =>
    rcases hn' : d.number? with _ | m
    case none => exact (hi'.moved hn' build).not_concerns hn' (hi.concerns hn)
    case some =>
      cases hi.number_eq hi' (hm hc) (hm hd) hn hn'
      exact hq (eq_of_number_eq (pairwise_checks ..) hd hc hn' hn)

-- Two hosts whose answers do not show the names, and are equal for all other invocations.
theorem agreeBut_of_blind (hb : h.Blind names) (hb' : h'.Blind names)
    (hv : ∀ program s t, (h.isAvailable program s).1 = (h'.isAvailable program t).1)
    (hi : ∀ i, ¬v.Owns names checks p i → ∀ s t, (h.invoke i s).1 = (h'.invoke i t).1) :
    AgreeBut v names checks p h h' where
  nonempty         := hb.nonempty
  isAvailable      := hv
  openBuild s b ho := by
    have hn := hb.openBuild s s
    rw [ho] at hn
    cases hn
    assumption
  openBuild' t b ho := by
    have hn := hb'.openBuild t t
    rw [ho] at hn
    cases hn
    assumption
  invoke b b' hn hn' i i' hr _ ho s t := by
    rw [hb.invoke b b' hn hn' i i' hr s s, hi i' ho s t]
    exact .refl ..

namespace AgreeBut

theorem answerAlike (ha : AgreeBut v names checks p h h') {b b' : Path} (hb : names b)
    (hb' : names b') {i i' : Invocation} (hr : Invocation.Renamed b b' i i')
    (hi : ¬v.Owns names checks p i) (hi' : ¬v.Owns names checks p i') :
    h.AnswerAlike b b' v.signatures h' i i' :=
  ⟨hr.tool, ha.invoke b b' hb hb' i i' hr hi hi'⟩

theorem hostsAgree (ha : AgreeBut v names checks p h h') : HostsAgree False v names h h' where
  nonempty    := ha.nonempty
  isAvailable := ha.isAvailable
  version b hb := by
    have hi : ¬v.Owns names checks p (Toolchain.version v.config) := fun ⟨b, _, hi⟩ =>
      have ⟨c, _, hc⟩ := (hi p).2 rfl
      not_issues_version b c hc
    exact ha.answerAlike hb hb (.same _) hi hi
  openBuild s t := by
    rcases ho : (h.openBuild s).1 with _ | b
    case error => exact .left id
    case ok =>
      rcases ho' : (h'.openBuild t).1 with _ | b'
      case error => exact .right id
      case ok => exact .opened (ha.openBuild s b ho) (ha.openBuild' t b' ho')
  checks      := False.elim

theorem agreeOn {options : Options} {module : String} {sources : List Artifact}
    (ha : AgreeBut v names (v.checks options module sources) p h h') {major : Option UInt32}
    {b b' : Path} (hb : names b) (hb' : names b') {q : Nat} {c : Check}
    (hc : (v.checks options module sources)[q]? = some c) (hq : q ≠ p) :
    (Bench.mk v major b).AgreeOn h h' b' c := by
  intro ask hm
  have hi (build : Path) :
      ¬v.Owns names (v.checks options module sources) p (ask ⟨v, major, build⟩) :=
    not_owns_of_issues hc ⟨ask, hm, (Bench.ask_of_major hm major).symm⟩ hq
  exact ha.answerAlike hb hb' (Bench.ask_renamed ⟨v, major, b⟩ b' hm) (hi b) (hi b')

end AgreeBut

end Auditor

namespace Sample

-- The names that directories for builds have here.
def IsBuild (b : Path) : Prop :=
  "/tmp/build-".toList <+: b.text.toList

instance (b : Path) : Decidable (IsBuild b) :=
  inferInstanceAs (Decidable (_ <+: _))

def newBuild (made : Nat) : Path :=
  ⟨"/tmp/build-" ++ toString made⟩

theorem isBuild_newBuild (made : Nat) : IsBuild (newBuild made) := by
  rw [IsBuild, newBuild, String.toList_append]
  exact List.prefix_append ..

-- A machine on which every tool has nothing to say, and that has a new name for every directory.
def quietHost : Host Nat where
  isAvailable _ made := (true, made)
  invoke _ made := (.ran ⟨some 0, "", false⟩, made)
  openBuild made := (.ok (newBuild made), made + 1)
  closeBuild _ made := made

theorem quietHost_blind : quietHost.Blind IsBuild where
  nonempty              := ⟨_, isBuild_newBuild 0⟩
  isAvailable _ _ _     := rfl
  invoke _ _ _ _ _ _ _  := fun _ _ => rfl
  openBuild s t         := .opened (isBuild_newBuild s) (isBuild_newBuild t)

def vulnerable : Artifact := ⟨.vulnerable, directory.join "queue_vulnerabilities.cpp"⟩

-- The first program that is run, which is the fourth one that is built.
def firstRun (build : Path) : Invocation :=
  (Auditor.Bench.mk auditor none build).running 4 vulnerable .addressSanitizer

def isFirstRun (i : Invocation) : Bool :=
  i.workingDir.any fun d => IsBuild d ∧ i = firstRun d

-- The same machine, except that this program does not come to an end.
def stubbornHost : Host Nat where
  isAvailable _ made := (true, made)
  invoke i made :=
    if isFirstRun i then (.ran ⟨none, "", true⟩, made) else (.ran ⟨some 0, "", false⟩, made)
  openBuild made := (.ok (newBuild made), made + 1)
  closeBuild _ made := made

-- The program is the same one in any other directory.
theorem firstRun_of_renamed {b : Path} {i : Invocation} {name : String}
    (hn : name.toList.head? ≠ some '/')
    (h : { i with program := (b.join name).text, workingDir := some b } = firstRun b) (b' : Path) :
    { i with program := (b'.join name).text, workingDir := some b' } = firstRun b' := by
  have hp : (b.join name).text =
      (Auditor.outputPath b 4 .addressSanitizer vulnerable).text := congrArg (·.program) h
  obtain rfl : name = Auditor.outputName 4 .addressSanitizer vulnerable :=
    b.join_injective hn (Auditor.head?_outputName_ne 4 _ _) (congrArg Path.mk hp)
  exact congrArg (fun i : Invocation =>
    { i with
      program := (Auditor.outputPath b' 4 .addressSanitizer vulnerable).text
      workingDir := some b' }) h

theorem isFirstRun_eq {b b' : Path} (hb : IsBuild b) (hb' : IsBuild b') {i i' : Invocation}
    (hr : Invocation.Renamed b b' i i') : isFirstRun i = isFirstRun i' := by
  cases hr
  case same => rfl
  case output i name _ =>
    have hf (x : String) : isFirstRun (i.addArgs [x]) = false := by
      simp only [isFirstRun, Option.any_eq_false, decide_eq_false_iff_not]
      rintro d _ ⟨_, h⟩
      have := congrArg (·.args) h
      simp [firstRun, Auditor.Bench.args_running, Invocation.addArgs] at this
    rw [hf, hf]
  case program hn =>
    refine decide_eq_decide.2 ⟨fun h => ⟨hb', ?_⟩, fun h => ⟨hb, ?_⟩⟩
    · exact firstRun_of_renamed hn h.2 b'
    · exact firstRun_of_renamed hn h.2 b

theorem stubbornHost_blind : stubbornHost.Blind IsBuild where
  nonempty          := ⟨_, isBuild_newBuild 0⟩
  isAvailable _ _ _ := rfl
  openBuild s t     := .opened (isBuild_newBuild s) (isBuild_newBuild t)
  invoke b b' hb hb' i i' hr s t := by
    simp only [stubbornHost, isFirstRun_eq hb hb' hr]
    split <;> rfl

-- A validation ends with such a result at place 5, and opens one directory only.
def endsWith (outcome : Outcome) (b : Path) : Except Stop Scorecard × Session Nat → Bool
  | (.error _, _) => false
  | (.ok card, s) =>
    (card.results[5]?).map (·.outcome) = some outcome && s.journal.all fun
      | .openedBuild b' => b' = b
      | _ => true

theorem exists_of_endsWith {outcome : Outcome} {b : Path} {q : Except Stop Scorecard × Session Nat}
    (h : endsWith outcome b q = true) :
    ∃ card s, q = (.ok card, s) ∧ (card.results[5]?).map (·.outcome) = some outcome ∧
      ∀ b', .openedBuild b' ∈ s.journal → b' = b := by
  rcases q with ⟨_ | card, s⟩
  case error => cases h
  case ok =>
    simp only [endsWith, Bool.and_eq_true, decide_eq_true_eq, List.all_eq_true] at h
    exact ⟨card, s, rfl, h.1, fun b' hb => of_decide_eq_true (h.2 _ hb)⟩

theorem validate_quietHost :
    ∃ card s, auditor.validate files quietHost directory ⟨.full, false⟩ (.initial 0) =
        (.ok card, s) ∧
      (card.results[5]?).map (·.outcome) = some .failed ∧
      ∀ b, .openedBuild b ∈ s.journal → b = newBuild 0 := by
  rw [Auditor.validate_of_discover discover_eq rfl]
  exact exists_of_endsWith (by decide +kernel)

theorem validate_stubbornHost :
    ∃ card s, auditor.validate files stubbornHost directory ⟨.full, false⟩ (.initial 7) =
        (.ok card, s) ∧
      (card.results[5]?).map (·.outcome) = some .inconclusive ∧
      ∀ b, .openedBuild b ∈ s.journal → b = newBuild 7 := by
  rw [Auditor.validate_of_discover discover_eq rfl]
  exact exists_of_endsWith (by decide +kernel)

theorem firstRun_issuesOnlyAt (build : Path) :
    auditor.IssuesOnlyAt
      (auditor.checks ⟨.full, false⟩ (Course.moduleName directory) artifacts.sources) 5 build
      (firstRun build) := by
  have hc : (auditor.checks ⟨.full, false⟩ (Course.moduleName directory) artifacts.sources)[5]? =
      some (.sanitize 4 ⟨vulnerable, .mustDetect⟩ .addressSanitizer) := by decide +kernel
  exact Auditor.issuesOnlyAt_of_number hc rfl ⟨_, Check.mem_asks.2 (.run ..), rfl⟩

-- The machines agree on all but the check at place 5, which this program is run for.
theorem agreeBut_fifth :
    auditor.AgreeBut IsBuild
      (auditor.checks ⟨.full, false⟩ (Course.moduleName directory) artifacts.sources) 5 quietHost
      stubbornHost := by
  refine Auditor.agreeBut_of_blind quietHost_blind stubbornHost_blind (fun _ _ _ => rfl) ?_
  intro i ho s t
  have hf : ¬isFirstRun i := by
    rw [isFirstRun, Option.any_eq_true]
    rintro ⟨d, _, hd⟩
    obtain ⟨hb, rfl⟩ := of_decide_eq_true hd
    exact ho ⟨d, hb, firstRun_issuesOnlyAt d⟩
  simp only [stubbornHost, if_neg hf]
  rfl

end Sample

namespace Auditor

variable {v : Auditor} {names : Path → Prop} {p : Nat} {h : Host σ} {h' : Host τ}

-- If two hosts agree on everything but the check at one place, then the results of two validations
-- have the same names everywhere, and but for the names of the directories for builds they are the
-- same at all other places. Hosts agree so far if neither of them shows these names and their
-- answers are equal for all other invocations (`agreeBut_of_blind`).
theorem results_alike_but {files : FileTree} {directory : Path} {options : Options}
    {artifacts : Artifacts} {s : σ} {t : τ} {u : Session σ} {u' : Session τ}
    {card card' : Scorecard} (hd : Artifacts.discover files directory = .ok artifacts)
    (ha : AgreeBut v names (v.checks options (Course.moduleName directory) artifacts.sources) p h
      h')
    (hv : v.validate files h directory options (.initial s) = (.ok card, u))
    (hv' : v.validate files h' directory options (.initial t) = (.ok card', u')) :
    ∃ b b', names b ∧ names b' ∧
      (options.skipBuild = false → .openedBuild b ∈ u.journal ∧ .openedBuild b' ∈ u'.journal) ∧
      card.results.length = card'.results.length ∧
      ∀ q r r', card.results[q]? = some r → card'.results[q]? = some r' →
        r.name = r'.name ∧ (q ≠ p → CheckResult.Renamed b b' r r') := by
  have he : Ends False _ _ (v.validate files h directory options (.initial s)).1
      (v.validate files h' directory options (.initial t)).1 :=
    validate_ends ha.hostsAgree (Session.knows_initial v h s) (Session.knows_initial v h' t)
  rw [hv, hv'] at he
  cases he
  case done he =>
    obtain ⟨artifacts', b, b', major, hd', hb, hb', hj, hc⟩ := he
    cases hd.symm.trans hd'
    refine ⟨b, b', hb, hb', hj, hc.results.length_eq, fun q r r' hr hr' => ?_⟩
    have ⟨c, hq, hr⟩ := hc.results.getElem? hr hr'
    exact ⟨hr.name, fun hp => hr.renamed <| ha.agreeOn hb hb' hq hp⟩

end Auditor

namespace Sample

-- The directories have different names, and the results at place 5 have different outcomes.
theorem results_alike_but_fifth :
    ∃ card card' : Scorecard,
      (auditor.validate files quietHost directory ⟨.full, false⟩ (.initial 0)).1 = .ok card ∧
      (auditor.validate files stubbornHost directory ⟨.full, false⟩ (.initial 7)).1 = .ok card' ∧
      (card.results[5]?).map (·.outcome) = some .failed ∧
      (card'.results[5]?).map (·.outcome) = some .inconclusive ∧
      card.results.length = card'.results.length ∧
      ∀ q r r', card.results[q]? = some r → card'.results[q]? = some r' →
        r.name = r'.name ∧
        (q ≠ 5 → CheckResult.Renamed ⟨"/tmp/build-0"⟩ ⟨"/tmp/build-7"⟩ r r') := by
  obtain ⟨card, u, hv, ho, hu⟩ := validate_quietHost
  obtain ⟨card', u', hv', ho', hu'⟩ := validate_stubbornHost
  have ⟨b, b', _, _, hj, hr⟩ := Auditor.results_alike_but discover_eq agreeBut_fifth hv hv'
  obtain rfl := hu b (hj rfl).1
  obtain rfl := hu' b' (hj rfl).2
  exact ⟨card, card', congrArg Prod.fst hv, congrArg Prod.fst hv', ho, ho', hr⟩

end Sample
end CourseAudit
