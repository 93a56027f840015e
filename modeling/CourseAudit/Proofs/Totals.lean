import Mathlib.Data.List.Perm.Basic
import CourseAudit.Proofs.ByteOrder
import CourseAudit.Report.Basic

/-!
The modules of a report divide its scorecards among themselves, so what is counted module by module
adds up to what is counted in the scorecards themselves, whatever their order. Main statement:
`Report.of_totals`.
-/
namespace CourseAudit

open Text.Utf8 (encodeString)

theorem total_perm (count : α → Nat) {members members' : List α} (h : members.Perm members') :
    total count members = total count members' := by
  refine h.foldr_eq' (fun x _ y _ n => ?_) 0
  omega

theorem Outcome.counts?_eq_false_iff {o : Outcome} :
    o.counts? = some false ↔ o = .failed ∨ o = .inconclusive := by
  cases o <;> decide

namespace CheckResult

-- What is evaluated passed or counts against the pattern, and not both.
theorem countP_isEvaluated (results : List CheckResult) :
    results.countP (·.outcome.isEvaluated) = results.countP (·.outcome = .passed) +
      results.countP (·.outcome = .failed) + results.countP (·.outcome = .inconclusive) := by
  induction results
  case nil => rfl
  case cons r results hi =>
    simp only [List.countP_cons, hi]
    cases r.outcome <;> simp [Outcome.isEvaluated, Outcome.counts?] <;> omega

-- Nothing counts against a pattern if everything that is evaluated passed.
theorem all_counts?_iff (results : List CheckResult) :
    results.all (·.outcome.counts? ≠ some false) = true ↔
      results.countP (·.outcome = .passed) = results.countP (·.outcome.isEvaluated) := by
  have hp := countP_isEvaluated results
  have hnone : results.all (·.outcome.counts? ≠ some false) = true ↔
      results.countP (·.outcome = .failed) = 0 ∧
        results.countP (·.outcome = .inconclusive) = 0 := by
    simp only [List.all_eq_true, List.countP_eq_zero, decide_eq_true_eq, ne_eq,
      Outcome.counts?_eq_false_iff, not_or, forall_and]
  rw [hnone]
  omega

end CheckResult

namespace Scorecard

-- All results on some scorecards.
def resultsOf (cards : List Scorecard) : List CheckResult :=
  cards.flatMap (·.results)

theorem resultsOf_append (cards cards' : List Scorecard) :
    resultsOf (cards ++ cards') = resultsOf cards ++ resultsOf cards' :=
  List.flatMap_append

theorem resultsOf_perm {cards cards' : List Scorecard} (h : cards.Perm cards') :
    (resultsOf cards).Perm (resultsOf cards') :=
  h.flatMap_right _

theorem countP_resultsOf (p : CheckResult → Bool) (cards : List Scorecard) :
    (resultsOf cards).countP p = total (·.results.countP p) cards := by
  induction cards
  case nil => rfl
  case cons card cards hi =>
    rw [resultsOf, List.flatMap_cons, List.countP_append, ← resultsOf, hi]
    rfl

theorem all_isFullyPassing (cards : List Scorecard) :
    cards.all (·.isFullyPassing) = (resultsOf cards).all (·.outcome.counts? ≠ some false) :=
  List.all_flatMap.symm

end Scorecard

open Scorecard (resultsOf countP_resultsOf)

-- The numbers of patterns and checks are those of the given scorecards.
structure Counts (patterns fullyPassing passed evaluated : Nat) (cards : List Scorecard) :
    Prop where
  patterns     : patterns = cards.length
  fullyPassing : fullyPassing = cards.countP (·.isFullyPassing)
  passed       : passed = (resultsOf cards).countP (·.outcome = .passed)
  evaluated    : evaluated = (resultsOf cards).countP (·.outcome.isEvaluated)

namespace Counts

theorem nil : Counts 0 0 0 0 [] :=
  ⟨rfl, rfl, rfl, rfl⟩

theorem append (h : Counts n f p e cards) (h' : Counts n' f' p' e' cards') :
    Counts (n + n') (f + f') (p + p') (e + e') (cards ++ cards') where
  patterns     := by rw [h.patterns, h'.patterns, List.length_append]
  fullyPassing := by rw [h.fullyPassing, h'.fullyPassing, List.countP_append]
  passed       := by rw [h.passed, h'.passed, Scorecard.resultsOf_append, List.countP_append]
  evaluated    := by rw [h.evaluated, h'.evaluated, Scorecard.resultsOf_append, List.countP_append]

theorem perm (h : Counts n f p e cards) (hp : cards.Perm cards') : Counts n f p e cards' where
  patterns     := h.patterns.trans hp.length_eq
  fullyPassing := h.fullyPassing.trans <| hp.countP_eq _
  passed       := h.passed.trans <| (Scorecard.resultsOf_perm hp).countP_eq _
  evaluated    := h.evaluated.trans <| (Scorecard.resultsOf_perm hp).countP_eq _

theorem passed_eq_iff (h : Counts n f p e cards) :
    cards.all (·.isFullyPassing) = true ↔ p = e := by
  rw [h.passed, h.evaluated, Scorecard.all_isFullyPassing, CheckResult.all_counts?_iff]

theorem fullyPassing_eq_iff (h : Counts n f p e cards) :
    cards.all (·.isFullyPassing) = true ↔ f = n := by
  rw [h.patterns, h.fullyPassing, List.countP_eq_length, List.all_eq_true]

end Counts

namespace ModuleSummary

theorem of_counts (title : String → String) (module : String) (members : List Scorecard) :
    let m := of title module members
    Counts m.patternCount m.fullyPassingPatterns m.passedChecks m.evaluatedChecks members where
  patterns     := rfl
  fullyPassing := rfl
  passed       := (countP_resultsOf ..).symm
  evaluated    := (countP_resultsOf ..).symm

theorem of_perm {members members' : List Scorecard} (h : members.Perm members')
    (title : String → String) (module : String) :
    of title module members = of title module members' := by
  simp only [of, h.length_eq, h.countP_eq, total_perm _ h]

-- What is counted module by module adds up to what is counted over the members of all modules.
theorem total_counts {modules : List ModuleSummary} {membersOf : String → List Scorecard}
    (h : ∀ m ∈ modules, Counts m.patternCount m.fullyPassingPatterns m.passedChecks
      m.evaluatedChecks (membersOf m.module)) :
    Counts (total (·.patternCount) modules) (total (·.fullyPassingPatterns) modules)
      (total (·.passedChecks) modules) (total (·.evaluatedChecks) modules)
      (modules.flatMap fun m => membersOf m.module) := by
  induction modules
  case nil => exact .nil
  case cons m modules hi =>
    have ⟨hm, hms⟩ := List.forall_mem_cons.mp h
    exact hm.append (hi hms)

end ModuleSummary

namespace Report

-- The names of the modules

theorem mem_moduleNames {name : String} {cards : List Scorecard} :
    name ∈ moduleNames cards ↔ ∃ card ∈ cards, card.module = name := by
  induction cards
  case nil => simp [moduleNames]
  case cons card cards hi =>
    rw [moduleNames, List.foldr_cons, mem_insertName, ← moduleNames, hi]
    simp [eq_comm]

theorem insertName_pairwise {name : String} {names : List String} (h : names.Pairwise (· < ·)) :
    (insertName name names).Pairwise (· < ·) := by
  induction names
  case nil => simp [insertName]
  case cons first rest hi =>
    obtain ⟨hf, hr⟩ := List.pairwise_cons.mp h
    rw [insertName]
    split
    case isTrue hlt =>
      refine .cons ?_ h
      intro x hx
      rcases List.mem_cons.mp hx with rfl | hx
      · exact hlt
      · exact String.lt_trans hlt (hf x hx)
    case isFalse hlt =>
      split
      case isTrue => exact h
      case isFalse hne =>
        refine .cons ?_ (hi hr)
        intro x hx
        rcases mem_insertName.mp hx with rfl | hx
        · exact Std.lt_of_le_of_ne (String.not_lt.mp hlt) (Ne.symm hne)
        · exact hf x hx

theorem moduleNames_pairwise (cards : List Scorecard) : (moduleNames cards).Pairwise (· < ·) := by
  induction cards
  case nil => exact .nil
  case cons card cards hi => exact insertName_pairwise hi

theorem moduleNames_nodup (cards : List Scorecard) : (moduleNames cards).Nodup :=
  (moduleNames_pairwise cards).imp fun h => String.ne_of_lt h

-- An increasing list is determined by its members, so the names do not tell the order of the
-- scorecards.
theorem moduleNames_perm {cards cards' : List Scorecard} (h : cards.Perm cards') :
    moduleNames cards = moduleNames cards' := by
  refine List.Perm.eq_of_pairwise (fun _ _ _ _ h₁ h₂ => (String.lt_asymm h₁ h₂).elim)
    (moduleNames_pairwise _) (moduleNames_pairwise _) ?_
  rw [List.perm_ext_iff_of_nodup (moduleNames_nodup _) (moduleNames_nodup _)]
  intro name
  simp only [mem_moduleNames, h.mem_iff]

-- By induction on the names. The scorecards of the first module are put aside, and the rest is
-- divided among the other modules.
theorem flatMap_membersOf_perm {names : List String} {cards : List Scorecard} (hn : names.Nodup)
    (hc : ∀ card ∈ cards, card.module ∈ names) : (names.flatMap (membersOf cards)).Perm cards := by
  induction names generalizing cards
  case nil => rw [List.eq_nil_iff_forall_not_mem.mpr fun card h => nomatch hc card h]; rfl
  case cons name names hi =>
    have ⟨hne, hn⟩ := List.nodup_cons.mp hn
    let rest := cards.filter (·.module ≠ name)
    have hrest : ∀ card ∈ rest, card.module ∈ names := by
      intro card h
      have ⟨hm, hr⟩ := List.mem_filter.mp h
      exact (List.mem_cons.mp (hc card hm)).resolve_left (of_decide_eq_true hr)
    have hsame : ∀ other ∈ names, membersOf cards other = membersOf rest other := by
      intro other ho
      have hno : other ≠ name := fun h => hne (h ▸ ho)
      rw [membersOf, membersOf, List.filter_filter]
      refine List.filter_congr fun card _ => ?_
      by_cases h : card.module = other <;> simp [h, hno]
    rw [List.flatMap_cons, List.flatMap_congr hsame]
    have hsplit := List.filter_append_perm (·.module = name) cards
    simp only [← decide_not] at hsplit
    exact ((hi hn hrest).append_left _).trans hsplit

-- What a report says about its modules agrees with what its scorecards say.
structure Totals (r : Report) (title : String → String) : Prop where
  -- The modules are those that occur, each of them once, in the order of the bytes of their names.
  increasing : r.modules.Pairwise fun m n => encodeString m.module < encodeString n.module
  occurring  : ∀ name, name ∈ r.modules.map (·.module) ↔ ∃ card ∈ r.scorecards, card.module = name
  titles     : ∀ m ∈ r.modules, m.title = title m.module
  -- Every scorecard belongs to one module.
  partition  : (r.modules.flatMap fun m => r.scorecardsOf m.module).Perm r.scorecards
  members    : ∀ m ∈ r.modules, Counts m.patternCount m.fullyPassingPatterns m.passedChecks
    m.evaluatedChecks (r.scorecardsOf m.module)
  sums       : Counts (total (·.patternCount) r.modules)
    (total (·.fullyPassingPatterns) r.modules) (total (·.passedChecks) r.modules)
    (total (·.evaluatedChecks) r.modules) r.scorecards
  -- The totals of the whole report are the same, whichever way they are computed.
  patterns   : total (·.patternCount) r.modules = r.patternCount
  passing    : total (·.fullyPassingPatterns) r.modules = r.fullyPassingPatterns
  passed     : total (·.passedChecks) r.modules = r.count .passed
  evaluated  : total (·.evaluatedChecks) r.modules =
    r.count .passed + r.count .failed + r.count .inconclusive
  rate       : r.successRate = CourseAudit.successRate
    ((resultsOf r.scorecards).countP (·.outcome = .passed))
    ((resultsOf r.scorecards).countP (·.outcome.isEvaluated))
  single     : ∀ m ∈ r.modules, m.patternCount = 1 →
    ∃ card, r.scorecardsOf m.module = [card] ∧ m.successRate = card.successRate
  -- A report is fully passing if each of its modules is, and that shows in either pair of numbers.
  byChecks   : r.isFullyPassing = true ↔ ∀ m ∈ r.modules, m.passedChecks = m.evaluatedChecks
  byPatterns : r.isFullyPassing = true ↔ ∀ m ∈ r.modules, m.fullyPassingPatterns = m.patternCount

-- Two reports say the same about their modules and about all scorecards together.
structure SameTotals (r r' : Report) : Prop where
  modules     : r.modules = r'.modules
  successRate : r.successRate = r'.successRate
  patterns    : r.patternCount = r'.patternCount
  passing     : r.fullyPassingPatterns = r'.fullyPassingPatterns
  fullPass    : r.isFullyPassing = r'.isFullyPassing
  counts      : ∀ o, r.count o = r'.count o

theorem count_eq (r : Report) (o : Outcome) :
    r.count o = (resultsOf r.scorecards).countP (·.outcome = o) := by
  rw [countP_resultsOf]
  rfl

variable (title : String → String) (mode : Mode) (moment : Moment)

theorem modules_of (cards : List Scorecard) :
    (of title mode moment cards).modules =
      (moduleNames cards).map fun name => .of title name (membersOf cards name) :=
  rfl

theorem flatMap_scorecardsOf_perm (cards : List Scorecard) :
    let r := of title mode moment cards
    (r.modules.flatMap fun m => r.scorecardsOf m.module).Perm cards := by
  have hc : ∀ card ∈ cards, card.module ∈ moduleNames cards :=
    fun card h => mem_moduleNames.mpr ⟨card, h, rfl⟩
  intro r
  rw [modules_of, List.flatMap_map]
  exact flatMap_membersOf_perm (moduleNames_nodup cards) hc

theorem members_counts (cards : List Scorecard) :
    let r := of title mode moment cards
    ∀ m ∈ r.modules, Counts m.patternCount m.fullyPassingPatterns m.passedChecks m.evaluatedChecks
      (r.scorecardsOf m.module) := by
  intro r m h
  obtain ⟨name, -, rfl⟩ := List.mem_map.mp h
  exact ModuleSummary.of_counts ..

-- The scorecards of the modules are all scorecards.
theorem all_scorecardsOf (p : Scorecard → Bool) (cards : List Scorecard) :
    let r := of title mode moment cards
    cards.all p = true ↔ ∀ m ∈ r.modules, (r.scorecardsOf m.module).all p = true := by
  intro r
  rw [← (flatMap_scorecardsOf_perm title mode moment cards).all_eq, List.all_flatMap,
    List.all_eq_true]

theorem totals_of (cards : List Scorecard) : (of title mode moment cards).Totals title := by
  have hm := members_counts title mode moment cards
  have hs :=
    (ModuleSummary.total_counts hm).perm (flatMap_scorecardsOf_perm title mode moment cards)
  constructor
  case increasing =>
    rw [modules_of, List.pairwise_map]
    exact (moduleNames_pairwise cards).imp Text.Utf8.encodeString_lt_iff.mpr
  case occurring =>
    intro name
    rw [modules_of, List.map_map]
    exact (congrArg _ (List.map_id _)).to_iff.trans mem_moduleNames
  case titles =>
    intro m h
    obtain ⟨name, -, rfl⟩ := List.mem_map.mp h
    rfl
  case partition => exact flatMap_scorecardsOf_perm ..
  case members => exact hm
  case sums => exact hs
  case patterns => exact hs.patterns
  case passing => exact hs.fullyPassing
  case passed => rw [hs.passed, count_eq]; rfl
  case evaluated =>
    rw [hs.evaluated, CheckResult.countP_isEvaluated]
    simp only [count_eq]
    rfl
  case rate =>
    rw [successRate, passedChecks, evaluatedChecks, hs.passed, hs.evaluated]
    rfl
  case single =>
    intro m h h₁
    have ⟨card, hc⟩ := List.length_eq_one_iff.mp <| (hm m h).patterns.symm.trans h₁
    refine ⟨card, hc, ?_⟩
    have hp := (hm m h).passed
    have he := (hm m h).evaluated
    rw [hc, resultsOf, List.flatMap_singleton] at hp he
    rw [ModuleSummary.successRate, hp, he]
    rfl
  case byChecks =>
    refine (all_scorecardsOf title mode moment (·.isFullyPassing) cards).trans ?_
    exact forall₂_congr fun m h => (hm m h).passed_eq_iff
  case byPatterns =>
    refine (all_scorecardsOf title mode moment (·.isFullyPassing) cards).trans ?_
    exact forall₂_congr fun m h => (hm m h).fullyPassing_eq_iff

theorem modules_perm {cards cards' : List Scorecard} (h : cards.Perm cards') :
    (of title mode moment cards).modules = (of title mode moment cards').modules := by
  rw [modules_of, modules_of, moduleNames_perm h]
  exact List.map_congr_left fun name _ => ModuleSummary.of_perm (h.filter _) title name

theorem sameTotals_of {cards cards' : List Scorecard} (h : cards.Perm cards') :
    (of title mode moment cards).SameTotals (of title mode moment cards') where
  modules     := modules_perm title mode moment h
  successRate := by simp only [successRate, passedChecks, evaluatedChecks, modules_perm _ _ _ h]
  patterns    := h.length_eq
  passing     := h.countP_eq _
  fullPass    := h.all_eq
  counts o    := by rw [count_eq, count_eq]; exact (Scorecard.resultsOf_perm h).countP_eq _

-- The totals of a report agree with each other, and they do not depend on the order in which the
-- scorecards came.
theorem of_totals (cards : List Scorecard) :
    let r := of title mode moment cards
    r.scorecards = cards ∧ r.Totals title ∧
      ∀ cards', cards.Perm cards' → r.SameTotals (of title mode moment cards') :=
  ⟨rfl, totals_of title mode moment cards, fun _ h => sameTotals_of title mode moment h⟩

end Report

namespace Sample

-- Three patterns of two modules. Nothing is evaluated in the module that comes first.
def cards : List Scorecard := [
  ⟨"lesson_7_1_queue", "07-concurrency", ⟨"/07-concurrency/lesson_7_1_queue"⟩,
    [⟨"documentation", .passed, ""⟩, ⟨"tsan:queue_secure.cpp", .failed, ""⟩]⟩,
  ⟨"lesson_1_1_intro", "01-basics", ⟨"/01-basics/lesson_1_1_intro"⟩,
    [⟨"documentation", .skipped, ""⟩]⟩,
  ⟨"lesson_7_2_pool", "07-concurrency", ⟨"/07-concurrency/lesson_7_2_pool"⟩,
    [⟨"documentation", .passed, ""⟩, ⟨"cppcheck:pool_secure.cpp", .inconclusive, ""⟩]⟩]

theorem totals_of_reversed_cards :
    cards.Perm cards.reverse ∧
    (Report.of id .full ⟨0, 0⟩ cards).modules = (Report.of id .full ⟨0, 0⟩ cards.reverse).modules :=
  have h : cards.Perm cards.reverse := (List.reverse_perm _).symm
  ⟨h, ((Report.of_totals id .full ⟨0, 0⟩ cards).2.2 _ h).modules⟩

end Sample
end CourseAudit
