import CourseAudit.Proofs.CheckNames
import CourseAudit.Proofs.Products
import CourseAudit.Proofs.Recommendations
import CourseAudit.Proofs.Visits

/-!
What a missing source and a missing analyzer leave in the results of a pattern. A report knows both
by names and details of results alone, but no result looks like that for another reason. Main
statement: `Auditor.ValidateRecords.missing`.
-/
namespace CourseAudit

open Report (isMissingSource isMissingAnalyzer)

/-! ### Totals -/

theorem total_cons {α : Type} (count : α → Nat) (m : α) (members : List α) :
    total count (m :: members) = count m + total count members :=
  rfl

theorem total_append {α : Type} (count : α → Nat) (members members' : List α) :
    total count (members ++ members') = total count members + total count members' := by
  induction members
  case nil => exact (Nat.zero_add _).symm
  case cons m members hi => rw [List.cons_append, total_cons, total_cons, hi, Nat.add_assoc]

theorem total_congr {α : Type} {count count' : α → Nat} {members : List α}
    (h : ∀ m ∈ members, count m = count' m) : total count members = total count' members := by
  induction members
  case nil => rfl
  case cons m members hi =>
    have ⟨hm, hs⟩ := List.forall_mem_cons.mp h
    rw [total_cons, total_cons, hm, hi hs]

theorem total_pos_iff {α : Type} {count : α → Nat} {members : List α} :
    0 < total count members ↔ ∃ m ∈ members, 0 < count m := by
  induction members
  case nil => simp [total]
  case cons m members hi =>
    rw [total_cons, Nat.add_pos_iff_pos_or_pos, hi, List.exists_mem_cons_iff]

theorem countP_flatten_eq_total {α : Type} (p : α → Bool) (parts : List (List α)) :
    parts.flatten.countP p = total (·.countP p) parts := by
  induction parts
  case nil => rfl
  case cons part parts hi =>
    rw [List.flatten_cons, List.countP_append, hi]
    rfl

theorem countP_eq_total {α : Type} (p : α → Bool) (members : List α) :
    members.countP p = total (fun m => (p m).toNat) members := by
  induction members
  case nil => rfl
  case cons m members hi =>
    rw [total_cons, ← hi, List.countP_cons, Nat.add_comm]
    cases p m <;> rfl

-- What is counted in the results of parts is what is counted in their exchanges.
theorem Audit.InTurn.total_eq {ι γ : Type} {P : ι → List Event → Except Stop γ → Prop}
    {count : γ → Nat} {weight : Event → Nat} {items : List ι} {events : List Event}
    {results : List γ} (h : InTurn P items events (.ok results))
    (hp : ∀ i ∈ items, ∀ events c, P i events (.ok c) → count c = total weight events) :
    total count results = total weight events := by
  induction items generalizing events results <;> cases h
  case nil => rfl
  case cons hi _ _ _ _ hc ht =>
    have ⟨hp, hps⟩ := List.forall_mem_cons.mp hp
    rw [total_append, ← hp _ _ hc, ← hi ht hps]
    rfl

/-! ### No result looks as if a source was missing -/

theorem isMissingSource_eq_false {r : CheckResult}
    (h : "discover:".toList.isPrefixOf r.name.toList = false) : isMissingSource r = false := by
  rw [isMissingSource, h, Bool.and_false]

-- The name of a check about a missing source does not begin like another word.
theorem isPrefixOf_discover_eq_false {front : String} (h : front.toList.head?.any (· ≠ 'd') = true)
    (rest : String) : "discover:".toList.isPrefixOf (front ++ rest).toList = false := by
  rw [String.toList_append]
  generalize front.toList = chars at h
  cases chars
  case nil => cases h
  case cons c chars =>
    have hc : 'd' ≠ c := Ne.symm (of_decide_eq_true h)
    rw [String.toList_ofList, List.cons_append, List.isPrefixOf, beq_false_of_ne hc,
      Bool.false_and]

theorem Artifacts.isMissingSource_presence (a : Artifacts) (role : Role) :
    isMissingSource (a.presence role) = (a.ofRole role).isEmpty := by
  have hd : ("discover:" ++ role.text).toList = "discover:".toList ++ role.text.toList :=
    String.toList_append
  have hn : "discover:".toList.isPrefixOf ("discover:" ++ role.text).toList = true := by
    rw [hd, List.isPrefixOf_iff_prefix]
    exact List.prefix_append ..
  rw [presence]
  split
  case h_1 h =>
    rw [List.map_eq_nil_iff.mp h]
    rw [isMissingSource, hn]
    rfl
  case h_2 h =>
    rw [List.isEmpty_eq_false_iff.mpr (mt List.map_eq_nil_iff.mpr h)]
    rfl

theorem Documentation.isMissingSource_check (files : FileTree) (documentation : Option Path) :
    isMissingSource (check files documentation) = false := by
  refine isMissingSource_eq_false ?_
  rw [check_name, String.toList_ofList, String.toList_ofList]
  decide

namespace Auditor

variable {v : Auditor} {module : String} {sources : List Artifact} {mode : Mode}

theorem isPrefixOf_discover_of_mem_sanitizeNames {a : Artifact} {name : String}
    (hn : name ∈ v.sanitizeNames module a) : "discover:".toList.isPrefixOf name.toList = false := by
  rcases List.mem_append.mp hn with hn | hn
  case inl =>
    obtain ⟨tool, ht, rfl⟩ := List.mem_map.mp hn
    rw [String.append_assoc]
    refine isPrefixOf_discover_eq_false ?_ _
    have ht := (List.mem_filter.mp ht).1
    simp only [List.mem_cons, List.not_mem_nil, or_false] at ht
    rcases ht with rfl | rfl | rfl <;> decide +kernel
  case inr =>
    split at hn
    case isTrue =>
      exact List.mem_singleton.mp hn ▸ isPrefixOf_discover_eq_false (by decide +kernel) _
    case isFalse => cases hn

-- None of the usual analyzers has a name that begins with a d.
theorem isPrefixOf_discover_of_mem_analyzeNames
    (ha : v.config.staticAnalyzers = Config.standard.staticAnalyzers) {analyzer name : String}
    (hm : analyzer ∈ v.config.staticAnalyzers) (hn : name ∈ v.analyzeNames sources analyzer) :
    "discover:".toList.isPrefixOf name.toList = false := by
  obtain ⟨a, -, rfl⟩ := List.mem_map.mp hn
  have hf : ∀ analyzer ∈ Config.standard.staticAnalyzers,
      analyzer.toList.head?.any (· ≠ 'd') = true := by
    decide +kernel
  rw [String.append_assoc]
  exact isPrefixOf_discover_eq_false (hf analyzer (ha ▸ hm)) _

theorem isPrefixOf_discover_of_mem_names
    (ha : v.config.staticAnalyzers = Config.standard.staticAnalyzers) {name : String}
    (hn : name ∈ (v.steps mode module sources).flatMap Step.names) :
    "discover:".toList.isPrefixOf name.toList = false := by
  rw [names_steps, List.mem_append] at hn
  rcases hn with hn | hn
  case inl =>
    obtain ⟨a, -, rfl⟩ := List.mem_map.mp hn
    exact isPrefixOf_discover_eq_false (by decide +kernel) _
  case inr =>
    split at hn
    case isTrue =>
      rcases List.mem_append.mp hn with hn | hn
      case inl =>
        obtain ⟨a, -, hn⟩ := List.mem_flatMap.mp hn
        exact isPrefixOf_discover_of_mem_sanitizeNames hn
      case inr =>
        obtain ⟨analyzer, hm, hn⟩ := List.mem_flatMap.mp hn
        exact isPrefixOf_discover_of_mem_analyzeNames ha hm hn
    case isFalse => cases hn

end Auditor

/-! ### No result looks as if an analyzer was missing -/

theorem isMissingAnalyzer_eq_false {r : CheckResult} (h : r.outcome ≠ .skipped) :
    isMissingAnalyzer r = false := by
  rw [isMissingAnalyzer, decide_eq_false h, Bool.false_and]

theorem isMissingAnalyzer_eq_false_of_detail {r : CheckResult}
    (h : "is not installed".toList.isSuffixOf r.detail.toList = false) :
    isMissingAnalyzer r = false := by
  rw [isMissingAnalyzer, h, Bool.and_false]

theorem Artifacts.isMissingAnalyzer_presence (a : Artifacts) (role : Role) :
    isMissingAnalyzer (a.presence role) = false := by
  rw [presence]
  split <;> rfl

theorem Documentation.isMissingAnalyzer_check (files : FileTree) (documentation : Option Path) :
    isMissingAnalyzer (check files documentation) = false := by
  have hb (name : String) (bytes : Text.Utf8.Bytes) :
      isMissingAnalyzer (checkBytes name bytes) = false := by
    rw [checkBytes]
    split <;> rfl
  cases documentation
  case none =>
    have hd : "is not installed".toList.isSuffixOf
        "no SECURITY_ANALYSIS.md, *SECURITY_POSTER.md, or README.md".toList = false := by
      rw [String.toList_ofList, String.toList_ofList]
      decide
    exact isMissingAnalyzer_eq_false_of_detail hd
  case some path =>
    rw [check]
    split
    case h_1 => rfl
    case h_2 => exact hb _ _

theorem Expected.judge_outcome_ne_skipped {expected : Expected} (h : expected ≠ .notApplicable)
    (verdict : Verdict) : (expected.judge verdict).outcome ≠ .skipped := by
  rw [judge.eq_def]
  split
  case h_1 => exact absurd rfl h
  all_goals exact nofun

theorem isSuffixOf_notApplicable :
    "is not installed".toList.isSuffixOf "not applicable to this role".toList = false := by
  rw [String.toList_ofList, String.toList_ofList]
  decide

theorem Expected.isMissingAnalyzer_judge (expected : Expected) (verdict : Verdict) (name : String) :
    isMissingAnalyzer ((expected.judge verdict).named name) = false := by
  by_cases h : expected = .notApplicable
  case pos =>
    rw [h, judge]
    exact isMissingAnalyzer_eq_false_of_detail isSuffixOf_notApplicable
  case neg => exact isMissingAnalyzer_eq_false (judge_outcome_ne_skipped h verdict)

-- An exchange that tells that an analyzer is missing, or so it may be.
def Event.isMishap : Event → Bool
  | .asked _ available => !available
  | .invoked i (.failed (.notFound _)) => i.tool.classOf = .analyzer
  | _ => false

theorem Event.isMishap_invoked {i : Invocation} (hi : i.tool.classOf ≠ .analyzer)
    (answer : Answer) : (Event.invoked i answer).isMishap = false := by
  rcases answer with reply | f | message
  case ran => rfl
  case failed =>
    cases f
    case notFound => exact decide_eq_false hi
    all_goals rfl
  case broke => rfl

namespace Auditor

-- How many checks an exchange keeps from being made: all those of an analyzer that is not there, or
-- one of an analyzer that is gone when it is invoked.
def withheld (v : Auditor) (sources : List Artifact) : Event → Nat
  | .asked analyzer false => (v.subjects (.analyzer analyzer) sources).length
  | .invoked i (.failed (.notFound _)) => if i.tool.classOf = .analyzer then 1 else 0
  | _ => 0

-- An analyzer is to read all sources that the contract applies it to, and no others.
def Reads (v : Auditor) (sources : List Artifact) : Step → Prop
  | .analyze analyzer subjects =>
    analyzer ∈ v.config.staticAnalyzers ∧ subjects = v.subjects (.analyzer analyzer) sources
  | _ => True

-- Only the absence of an analyzer keeps a check from being made.
theorem withheld_eq_zero {v : Auditor} {e : Event} (h : e.isMishap = false)
    (sources : List Artifact) : v.withheld sources e = 0 := by
  cases e
  case asked program available =>
    cases available
    case false => cases h
    case true => rfl
  case invoked i answer =>
    rcases answer with reply | f | message
    case ran => rfl
    case failed =>
      cases f
      case notFound => exact if_neg (of_decide_eq_false h)
      all_goals rfl
    case broke => rfl
  all_goals rfl

theorem total_withheld_eq_zero {v : Auditor} {events : List Event}
    (h : ∀ e ∈ events, e.isMishap = false) (sources : List Artifact) :
    total (v.withheld sources) events = 0 := by
  refine Nat.eq_zero_of_not_pos fun hp => ?_
  obtain ⟨e, he, hp⟩ := total_pos_iff.mp hp
  exact Nat.ne_of_gt hp (withheld_eq_zero (h e he) sources)

theorem reads_of_mem_steps {v : Auditor} {mode : Mode} {module : String} {sources : List Artifact}
    {step : Step} (h : step ∈ v.steps mode module sources) : v.Reads sources step := by
  have hq : ∀ step ∈ v.quickSteps sources, v.Reads sources step := by
    intro step h
    obtain ⟨a, -, rfl⟩ := List.mem_map.mp h
    rw [compileStep]
    split <;> trivial
  have hs (sanitizers : List Tool) (a : Artifact) :
      ∀ step ∈ v.sanitizeSteps sanitizers a, v.Reads sources step := by
    intro step h
    rcases List.mem_append.mp h with h | h
    case inl =>
      obtain ⟨p, -, rfl⟩ := List.mem_map.mp h
      trivial
    case inr =>
      split at h
      case isTrue => exact List.mem_singleton.mp h ▸ trivial
      case isFalse => cases h
  cases mode
  case quick => exact hq step h
  case full =>
    rw [steps, fullSteps, List.mem_append, List.mem_append] at h
    rcases h with h | h | h
    case inl => exact hq step h
    case inr.inl =>
      obtain ⟨a, -, h⟩ := List.mem_flatMap.mp h
      exact hs _ a step h
    case inr.inr =>
      obtain ⟨analyzer, hm, rfl⟩ := List.mem_map.mp h
      exact ⟨hm, rfl⟩

namespace Bench

variable {b : Bench} {number : Nat} {events : List Event} {sources : List Artifact}

theorem isMissingAnalyzer_notInstalled (analyzer name : String) :
    isMissingAnalyzer ((notInstalled analyzer).named name) = true := by
  have hs : "is not installed".toList <:+ " is not installed".toList := by
    rw [String.toList_ofList, String.toList_ofList]
    exact List.suffix_cons ..
  have hd : "is not installed".toList.isSuffixOf (analyzer ++ " is not installed").toList =
      true := by
    rw [List.isSuffixOf_iff_suffix, String.toList_append]
    exact hs.trans (List.suffix_append ..)
  exact hd

-- A run is repeated only where a defect is expected, so nothing is added to the reason for which a
-- check does not apply.
theorem isMissingAnalyzer_runResult (b : Bench) (tool : Tool) (expected : Expected) (e : RunsEnd)
    (name : String) :
    isMissingAnalyzer ((runResult tool expected (b.attempts tool expected) e).named name) =
      false := by
  cases e
  case unstartable => rfl
  case verdict verdict attempt =>
    by_cases h : expected = .notApplicable
    case pos =>
      subst h
      have ha : b.attempts tool .notApplicable = 1 := if_neg fun h => nomatch h.2
      have hn : attemptNote attempt 1 = "" := if_neg (Nat.lt_irrefl 1)
      have hj := Expected.isMissingAnalyzer_judge .notApplicable verdict name
      rw [runResult, ha, hn, String.append_empty]
      exact hj
    case neg => exact isMissingAnalyzer_eq_false (Expected.judge_outcome_ne_skipped h verdict)

theorem isMissingAnalyzer_buildResult (tool : Tool) (verdict : Verdict) (name : String) :
    isMissingAnalyzer ((buildResult tool verdict).named name) = false := by
  cases verdict <;> rfl

theorem building_not_mishap (number : Nat) (a : Artifact) (sanitizer : Option Tool)
    (answer : Answer) :
    (Event.invoked (b.building number a sanitizer) answer).isMishap = false := by
  refine Event.isMishap_invoked ?_ answer
  exact nofun

theorem CompileRecords.not_mishap {s : Subject} {r : Except Stop CheckResult}
    (h : b.CompileRecords number s events r) : ∀ e ∈ events, e.isMishap = false := by
  obtain ⟨answer, rfl⟩ := h.exists_eq
  exact List.forall_mem_singleton.mpr (building_not_mishap ..)

theorem SanitizeRecords.not_mishap {s : Subject} {tool : Tool} {r : Except Stop CheckResult}
    (h : b.SanitizeRecords number s tool events r) (ht : tool.isSanitizer = true) :
    ∀ e ∈ events, e.isMishap = false := by
  have hr : (b.running number s.artifact tool).tool.classOf ≠ .analyzer := by
    rw [tool_running]
    rintro hc
    cases tool <;> cases hc
    cases ht
  obtain ⟨answer, runs, rfl, ha, -⟩ := h.exists_eq_cons
  refine List.forall_mem_cons.mpr ⟨building_not_mishap .., fun e he => ?_⟩
  obtain ⟨answer, rfl⟩ := ha e he
  exact Event.isMishap_invoked hr answer

theorem CompileRecords.isMissingAnalyzer_eq_false {s : Subject} {r : CheckResult}
    (h : b.CompileRecords number s events (.ok r)) : isMissingAnalyzer r = false := by
  cases h
  case judged => exact Expected.isMissingAnalyzer_judge ..

theorem SanitizeRecords.isMissingAnalyzer_eq_false {s : Subject} {tool : Tool} {r : CheckResult}
    (h : b.SanitizeRecords number s tool events (.ok r)) : isMissingAnalyzer r = false := by
  cases h
  case unbuilt => exact isMissingAnalyzer_buildResult ..
  case ended => exact isMissingAnalyzer_runResult ..

theorem AnalyzeRecords.missing_of_unavailable {analyzer : String} {s : Subject} {r : CheckResult}
    (h : b.AnalyzeRecords analyzer s false events (.ok r)) :
    isMissingAnalyzer r = true ∧ events = [] := by
  cases h
  exact ⟨isMissingAnalyzer_notInstalled .., rfl⟩

theorem AnalyzeRecords.missing_of_available {analyzer : String} {s : Subject} {r : CheckResult}
    (h : b.AnalyzeRecords analyzer s true events (.ok r)) :
    (isMissingAnalyzer r).toNat = total (b.auditor.withheld sources) events := by
  cases h
  case judged => exact congrArg Bool.toNat (Expected.isMissingAnalyzer_judge ..)
  case gone => exact congrArg Bool.toNat (isMissingAnalyzer_notInstalled ..)
  case failed f hf =>
    cases f
    case notFound program => exact absurd rfl (hf program)
    all_goals rfl

theorem inTurn_missing_of_unavailable {analyzer : String} {subjects : List Subject}
    {results : List CheckResult}
    (h : Audit.InTurn (b.AnalyzeRecords analyzer · false) subjects events (.ok results)) :
    results.countP isMissingAnalyzer = subjects.length ∧ events = [] := by
  induction subjects generalizing events results <;> cases h
  case nil => exact ⟨rfl, rfl⟩
  case cons hi _ _ _ _ h ht =>
    obtain ⟨hm, rfl⟩ := h.missing_of_unavailable
    obtain ⟨hn, rfl⟩ := hi ht
    exact ⟨by rw [List.countP_cons_of_pos hm, hn, List.length_cons], rfl⟩

-- A step leaves one result behind for each check that was not made because of a missing analyzer.
theorem StepRecords.missing {step : Step} {results : List CheckResult}
    (h : b.StepRecords number step events (.ok results)) (hp : step.IsPlanned)
    (hr : b.auditor.Reads sources step) :
    results.countP isMissingAnalyzer = total (b.auditor.withheld sources) events := by
  have h₁ {r : CheckResult}
      (h : isMissingAnalyzer r = false ∧ total (b.auditor.withheld sources) events = 0) :
      [r].countP isMissingAnalyzer = total (b.auditor.withheld sources) events := by
    rw [List.countP_singleton, h.1, h.2]
    rfl
  cases h
  case compile h =>
    exact h₁ ⟨h.isMissingAnalyzer_eq_false, total_withheld_eq_zero h.not_mishap _⟩
  case sanitize h =>
    exact h₁ ⟨h.isMissingAnalyzer_eq_false, total_withheld_eq_zero (h.not_mishap hp) _⟩
  case skipCompile => exact h₁ ⟨isMissingAnalyzer_eq_false_of_detail isSuffixOf_notApplicable, rfl⟩
  case review => exact h₁ ⟨isMissingAnalyzer_eq_false nofun, rfl⟩
  case analyze analyzer subjects events available h =>
    obtain ⟨-, rfl⟩ := hr
    cases available
    case false =>
      obtain ⟨hm, rfl⟩ := inTurn_missing_of_unavailable h
      exact hm
    case true =>
      rw [countP_eq_total, h.total_eq fun s _ events r h => h.missing_of_available]
      exact (Nat.zero_add _).symm

theorem StepsRecord.missing {steps : List Step} {results : List CheckResult}
    (h : b.StepsRecord number steps events (.ok results)) (hp : ∀ step ∈ steps, step.IsPlanned)
    (hr : ∀ step ∈ steps, b.auditor.Reads sources step) :
    results.countP isMissingAnalyzer = total (b.auditor.withheld sources) events := by
  obtain ⟨parts, h, rfl⟩ := h
  rw [countP_flatten_eq_total]
  refine h.total_eq fun p hm events results h => ?_
  have hm := Step.mem_of_mem_numbered hm
  exact h.missing (hp _ hm) (hr _ hm)

end Bench

variable {v : Auditor} {files : FileTree} {directory : Path} {options : Options}
variable {known known' : Option (Option UInt32)} {events : List Event} {sources : List Artifact}

theorem MajorRecords.not_mishap {major : Option UInt32}
    (h : v.MajorRecords known events known' (.ok major)) : ∀ e ∈ events, e.isMishap = false := by
  cases h
  case known => exact List.forall_mem_nil _
  case learned h =>
    cases h
    case parsed => exact List.forall_mem_cons.mpr ⟨rfl, List.forall_mem_singleton.mpr rfl⟩

theorem BuildResultsRecord.missing {mode : Mode} {module : String} {major : Option UInt32}
    {results : List CheckResult}
    (h : v.BuildResultsRecord major (v.steps mode module sources) events (.ok results)) :
    results.countP isMissingAnalyzer = total (v.withheld sources) events := by
  cases h
  case opened h =>
    have hm := h.missing (fun _ => isPlanned_of_mem_steps) fun _ => reads_of_mem_steps
    have ho (build : Path) : v.withheld sources (.openedBuild build) = 0 := rfl
    have hc (build : Path) : total (v.withheld sources) [.closedBuild build] = 0 := rfl
    rw [hm, List.cons_append, total_cons, total_append, ho, hc, Nat.zero_add, Nat.add_zero]

theorem BuildResultsRecord.isMissingSource_eq_false {mode : Mode} {module : String}
    {major : Option UInt32} {results : List CheckResult}
    (ha : v.config.staticAnalyzers = Config.standard.staticAnalyzers)
    (h : v.BuildResultsRecord major (v.steps mode module sources) events (.ok results)) :
    ∀ r ∈ results, isMissingSource r = false := by
  intro r hr
  cases h
  case opened h =>
    have hn : r.name ∈ (v.steps mode module sources).flatMap Step.names :=
      h.names_eq ▸ List.mem_map_of_mem hr
    exact CourseAudit.isMissingSource_eq_false (isPrefixOf_discover_of_mem_names ha hn)

-- Whether a pattern with such sources lacks one that every pattern needs.
def lacksSource (sources : List Artifact) : Bool :=
  !sources.any (·.role = .vulnerable) || !sources.any (·.role = .secure)

theorem any_isMissingSource_presences (a : Artifacts) :
    a.presences.any isMissingSource = lacksSource a.sources := by
  have he (role : Role) : (a.ofRole role).isEmpty = !a.sources.any (·.role = role) := by
    rw [Bool.eq_iff_iff, List.isEmpty_iff, Artifacts.ofRole, List.filter_eq_nil_iff,
      Bool.not_eq_true', List.any_eq_false]
  rw [Artifacts.presences, List.any_cons, List.any_cons, List.any_nil, Bool.or_false,
    Artifacts.isMissingSource_presence, Artifacts.isMissingSource_presence, he, he, lacksSource]

-- The scorecard of a validation that came to its end tells what is missing.
theorem ValidateRecords.missing {card : Scorecard}
    (ha : v.config.staticAnalyzers = Config.standard.staticAnalyzers)
    (h : v.ValidateRecords files directory options known events known' (.ok card)) :
    ∃ artifacts, Artifacts.discover files directory = .ok artifacts ∧
      card.results.any isMissingSource = lacksSource artifacts.sources ∧
      card.results.countP isMissingAnalyzer = total (v.withheld artifacts.sources) events := by
  have hs := h.events_eq_nil
  obtain ⟨artifacts, results, hd, rfl, hr⟩ := h.cases_of_ok
  have hb : (∀ r ∈ results, isMissingSource r = false) ∧
      results.countP isMissingAnalyzer = total (v.withheld artifacts.sources) events := by
    rcases hr with ⟨ho, rfl⟩ | ⟨-, before, major, later, rfl, hm, hb⟩
    case inl =>
      rw [hs ho]
      exact ⟨List.forall_mem_nil _, rfl⟩
    case inr =>
      rw [total_append, total_withheld_eq_zero hm.not_mishap, Nat.zero_add]
      exact ⟨hb.isMissingSource_eq_false ha, hb.missing⟩
  have hn : results.any isMissingSource = false :=
    List.any_eq_false.mpr fun r hr => Bool.eq_false_iff.mp (hb.1 r hr)
  refine ⟨artifacts, hd, ?_, ?_⟩
  case refine_1 =>
    rw [scorecard, List.any_append, List.any_append, hn, any_isMissingSource_presences,
      List.any_cons, Documentation.isMissingSource_check]
    simp
  case refine_2 =>
    have hp : artifacts.presences.countP isMissingAnalyzer = 0 := by
      simp [Artifacts.presences, Artifacts.isMissingAnalyzer_presence]
    have hc : [Documentation.check files artifacts.documentation].countP isMissingAnalyzer = 0 := by
      simp [Documentation.isMissingAnalyzer_check]
    rw [scorecard, List.countP_append, List.countP_append, hp, hc, hb.2, Nat.zero_add, Nat.add_zero]

end Auditor
end CourseAudit
