import CourseAudit.Proofs.Recommendations

/-!
What the report says of checks that failed. The recommendations count all of them, and say that
details are listed above; but only the patterns below the threshold are listed there. Main
statement: `Report.announces`.
-/
namespace CourseAudit

/-! ### Lines -/

namespace Text

-- A blank that is put behind a text is put behind its last line, or begins an empty one.
theorem exists_split_concat (sep c : Char) (text : List Char) : ∃ pieces last,
    split sep text = pieces ++ [last] ∧
      split sep (text ++ [c]) = pieces ++ if c = sep then [last, []] else [last ++ [c]] := by
  induction text
  case nil => refine ⟨[], [], rfl, ?_⟩; by_cases h : c = sep <;> simp [split, h]
  case cons x rest hi =>
    obtain ⟨pieces, last, hs, hc⟩ := hi
    rw [List.cons_append, split, split, hs, hc]
    by_cases hx : x = sep
    case pos => exact ⟨[] :: pieces, last, by simp [hx], by simp [hx]⟩
    case neg =>
      cases pieces
      case nil => exact ⟨[], x :: last, by simp [hx], by by_cases h : c = sep <;> simp [hx, h]⟩
      case cons piece pieces => exact ⟨(x :: piece) :: pieces, last, by simp [hx], by simp [hx]⟩

theorem exists_trimRight_append (text : List Char) :
    ∃ back, (∀ c ∈ back, isBlank c = true) ∧ trimRight text ++ back = text := by
  refine ⟨(text.reverse.takeWhile isBlank).reverse, fun c hc => ?_, ?_⟩
  · exact List.all_eq_true.mp List.all_takeWhile c (List.mem_reverse.mp hc)
  · rw [trimRight, ← List.reverse_append, List.takeWhile_append_dropWhile, List.reverse_reverse]

end Text

namespace Report

def failedMark : List Char :=
  "- **failed**".toList

-- The lines that say that a check failed.
def failedLines (text : List Char) : Nat :=
  (Text.split '\n' text).countP (failedMark.isPrefixOf ·)

theorem failedLines_append (text rest : List Char) :
    failedLines (text ++ '\n' :: rest) = failedLines text + failedLines rest := by
  rw [failedLines, Text.split_append_cons, List.countP_append]
  rfl

theorem failedLines_of_not_mem {line : List Char} (h : '\n' ∉ line) :
    failedLines line = if failedMark.isPrefixOf line then 1 else 0 := by
  rw [failedLines, Text.split_of_not_mem h, List.countP_singleton]

theorem failedLines_flatMap {lines : List (List Char)} (h : ∀ line ∈ lines, '\n' ∉ line) :
    failedLines (lines.flatMap (· ++ ['\n'])) = lines.countP (failedMark.isPrefixOf ·) := by
  induction lines
  case nil => rfl
  case cons line lines hi =>
    have ⟨hl, h⟩ := List.forall_mem_cons.mp h
    rw [List.flatMap_cons, List.append_assoc, List.singleton_append, failedLines_append, hi h,
      failedLines_of_not_mem hl, List.countP_cons, Nat.add_comm]

-- The mark does not end in a blank, so a blank cannot complete it.
theorem failedLines_concat {c : Char} (h : Text.isBlank c = true) (text : List Char) :
    failedLines (text ++ [c]) = failedLines text := by
  have ⟨pieces, last, hs, hc⟩ := Text.exists_split_concat '\n' c text
  have hm : failedMark.isPrefixOf (last ++ [c]) = failedMark.isPrefixOf last := by
    rw [Bool.eq_iff_iff, List.isPrefixOf_iff_prefix, List.isPrefixOf_iff_prefix,
      List.prefix_concat_iff]
    refine or_iff_right fun he => ?_
    have hl : failedMark.getLast?.any Text.isBlank = false := by decide +kernel
    rw [he, List.getLast?_concat] at hl
    exact Bool.noConfusion (hl.symm.trans h)
  have hn : failedMark.isPrefixOf [] = false := by decide +kernel
  rw [failedLines, failedLines, hs, hc, List.countP_append, List.countP_append]
  split
  case isTrue => simp only [List.countP_cons, List.countP_nil, hn]; rfl
  case isFalse => simp only [List.countP_cons, hm]

theorem failedLines_trimRight (text : List Char) :
    failedLines (Text.trimRight text) = failedLines text := by
  have ha (back text : List Char) (hb : ∀ c ∈ back, Text.isBlank c = true) :
      failedLines (text ++ back) = failedLines text := by
    induction back generalizing text
    case nil => rw [List.append_nil]
    case cons c back hi =>
      have ⟨hc, hb⟩ := List.forall_mem_cons.mp hb
      rw [← List.singleton_append, ← List.append_assoc, hi _ hb, failedLines_concat hc]
  have ⟨back, hb, ht⟩ := Text.exists_trimRight_append text
  exact (ha back _ hb).symm.trans (congrArg failedLines ht)

/-! ### Texts on one line -/

theorem newline_not_mem_fixed (places : Nat) (x : Float) :
    '\n' ∉ (Decimal.fixed places x).toList := by
  have hp (width n : Nat) : '\n' ∉ Decimal.padLeft width (toString n).toList := by
    rw [Decimal.padLeft, List.mem_append, not_or]
    exact ⟨by simp [List.mem_replicate], newline_not_mem_toString n⟩
  have ht (units : Nat) : '\n' ∉ (Decimal.placesText places units).toList := by
    rw [Decimal.placesText]
    split
    case isTrue => exact newline_not_mem_toString _
    case isFalse =>
      simp only [String.toList_append, String.toList_ofList, List.mem_append, not_or]
      exact ⟨⟨newline_not_mem_toString _, by decide⟩, hp _ _⟩
  have hs (b : Bool) : '\n' ∉ (if b then "-" else "").toList := by
    cases b <;> decide
  rw [Decimal.fixed]
  split
  case h_1 => decide
  case h_2 => simp [hs]
  case h_3 => simp [hs, ht]

theorem newline_not_mem_rateText (rate : Float) : '\n' ∉ (rateText rate).toList := by
  simp [rateText, newline_not_mem_fixed]

theorem newline_not_mem_thresholdText (threshold : Float) :
    '\n' ∉ (thresholdText threshold).toList := by
  rw [thresholdText]
  split <;> exact newline_not_mem_fixed _ _

theorem newline_not_mem_statusIcon (rate : Float) : '\n' ∉ (statusIcon rate).toList := by
  rw [statusIcon]
  split
  case h_1 level icon hf =>
    have hl : ∀ l ∈ statusLevels, '\n' ∉ l.2.toList := by decide
    exact hl _ (List.mem_of_find?_eq_some hf)
  case h_2 => decide

end Report

namespace Scorecard

-- The names of a card that take one line. A detail may take more.
structure IsPlain (s : Scorecard) : Prop where
  patternName : '\n' ∉ s.patternName.toList
  module      : '\n' ∉ s.module.toList
  names       : ∀ result ∈ s.results, '\n' ∉ result.name.toList

-- The lines about a card whose rate is too low.
def problemLines (s : Scorecard) : List String :=
  s.problemHeading :: "" :: (s.nonPassing.map problemLine ++ [""])

theorem toList_problemText (s : Scorecard) :
    s.problemText.toList = (s.problemLines.map String.toList).flatMap (· ++ ['\n']) := by
  simp [problemText, problemLines, String.toList_join, List.flatMap_map]

theorem newline_not_mem_problemLine {r : CheckResult} (h : '\n' ∉ r.name.toList) :
    '\n' ∉ (problemLine r).toList := by
  have ho : '\n' ∉ r.outcome.text.toList := by
    cases r.outcome <;> decide
  have hd : '\n' ∉ Text.replaceChar '\n' [' '] r.detail.toList := by
    simp only [Text.replaceChar, List.mem_flatMap, not_exists, not_and]
    intro c _
    split
    case isTrue => decide
    case isFalse hc => simpa using Ne.symm hc
  simp [problemLine, codeText, h, ho, hd]

theorem IsPlain.newline_not_mem {s : Scorecard} (h : s.IsPlain) :
    ∀ line ∈ s.problemLines, '\n' ∉ line.toList := by
  have hh : '\n' ∉ s.problemHeading.toList := by
    simp [problemHeading, codeText, h.patternName, h.module, Report.newline_not_mem_rateText,
      Report.newline_not_mem_statusIcon]
  have hr : ∀ line ∈ s.nonPassing.map problemLine, '\n' ∉ line.toList := by
    intro line hm
    obtain ⟨result, hr, rfl⟩ := List.mem_map.mp hm
    exact newline_not_mem_problemLine (h.names result (List.mem_filter.mp hr).1)
  intro line hm
  rw [problemLines, List.mem_cons, List.mem_cons, List.mem_append, List.mem_singleton] at hm
  rcases hm with rfl | rfl | hm | rfl
  · exact hh
  · decide
  · exact hr line hm
  · decide

theorem isPrefixOf_problemLine (r : CheckResult) :
    Report.failedMark.isPrefixOf (problemLine r).toList = decide (r.outcome = .failed) := by
  have ho (rest : List Char) :
      Report.failedMark.isPrefixOf
          ("- **".toList ++ (r.outcome.text.toList ++ ("** ".toList ++ rest))) =
        decide (r.outcome = .failed) := by
    cases r.outcome <;> rfl
  rw [problemLine]
  simp only [String.toList_append, List.append_assoc]
  exact ho _

theorem countP_problemLines (s : Scorecard) :
    s.problemLines.countP (fun line => Report.failedMark.isPrefixOf line.toList) =
      s.count .failed := by
  have hh : Report.failedMark.isPrefixOf s.problemHeading.toList = false := by
    simp only [problemHeading, String.toList_append, List.append_assoc]
    rfl
  have hn : Report.failedMark.isPrefixOf "".toList = false := rfl
  simp only [problemLines, List.countP_cons, List.countP_append, List.countP_map, List.countP_nil,
    hh, hn, Function.comp_def, isPrefixOf_problemLine]
  rw [count, nonPassing, List.countP_filter]
  refine List.countP_congr fun r _ => ?_
  cases r.outcome <;> decide

end Scorecard

namespace Report

variable {r : Report} {threshold : Float} {card : Scorecard} {result : CheckResult}

/-! ### The section on problems -/

-- The lines about all patterns below the threshold.
theorem toList_join_problemText (cards : List Scorecard) :
    (String.join (cards.map (·.problemText))).toList =
      ((cards.flatMap (·.problemLines)).map String.toList).flatMap (· ++ ['\n']) := by
  rw [String.toList_join, List.flatMap_map, List.map_flatMap, List.flatMap_assoc]
  exact List.flatMap_congr fun card _ => card.toList_problemText

theorem failedLines_join_problemText {cards : List Scorecard} (h : ∀ card ∈ cards, card.IsPlain) :
    failedLines (String.join (cards.map (·.problemText))).toList =
      total (·.count .failed) cards := by
  rw [toList_join_problemText, failedLines_flatMap, List.countP_map]
  · induction cards
    case nil => rfl
    case cons card cards hi =>
      rw [List.flatMap_cons, List.countP_append, hi (List.forall_mem_cons.mp h).2]
      exact congrArg (· + _) card.countP_problemLines
  · intro line hm
    obtain ⟨text, ht, rfl⟩ := List.mem_map.mp hm
    obtain ⟨card, hc, ht⟩ := List.mem_flatMap.mp ht
    exact (h card hc).newline_not_mem text ht

theorem failedLines_problemsText (h : ∀ card ∈ r.scorecards, card.IsPlain) (threshold : Float) :
    failedLines (r.problemsText threshold).toList =
      total (·.count .failed) (r.problems threshold) := by
  have hp : ∀ card ∈ r.problems threshold, card.IsPlain :=
    fun card hm => h card (List.mem_filter.mp hm).1
  rw [problemsText]
  split
  case h_1 hn =>
    have hl : '\n' ∉ ("No pattern is below " ++ thresholdText threshold ++ "%.").toList := by
      simp [newline_not_mem_thresholdText]
    have hm : failedMark.isPrefixOf
        ("No pattern is below " ++ thresholdText threshold ++ "%.").toList = false := by
      simp only [String.toList_append, List.append_assoc]
      rfl
    rw [hn, failedLines_of_not_mem hl, hm]
    rfl
  case h_2 =>
    rw [String.toList_ofList, failedLines_trimRight, failedLines_join_problemText hp]

theorem total_filter_add {α : Type} (count : α → Nat) (p : α → Bool) (members : List α) :
    total count (members.filter p) + total count (members.filter fun m => !p m) =
      total count members := by
  induction members
  case nil => rfl
  case cons m members hi =>
    have hc (members : List α) : total count (m :: members) = count m + total count members := rfl
    rw [List.filter_cons, List.filter_cons]
    cases p m
    case false =>
      simp only [Bool.not_false, Bool.false_eq_true, if_true, if_false, hc]
      omega
    case true =>
      simp only [Bool.not_true, Bool.false_eq_true, if_true, if_false, hc]
      omega

-- The line of a check that failed.
def failedLine (result : CheckResult) : String :=
  "- **failed** " ++ codeText result.name ++ ": " ++
    String.ofList (Text.replaceChar '\n' [' '] result.detail.toList)

theorem problemLine_of_failed (h : result.outcome = .failed) :
    Scorecard.problemLine result = failedLine result := by
  rw [Scorecard.problemLine, h]
  rfl

-- A text starts with what is said of some other cards. Then comes the heading of a card, and under
-- it the line of a result, behind other lines of the card.
def IsListed (text : String) (card : Scorecard) (result : CheckResult) : Prop :=
  ∃ (others : List Scorecard) (earlier : List CheckResult) (after : String),
    (∀ other ∈ earlier, other ∈ card.results) ∧
    text = String.join (others.map (·.problemText)) ++ card.problemHeading ++ "\n\n" ++
      String.join (earlier.map (Scorecard.problemLine · ++ "\n")) ++
      failedLine result ++ "\n" ++ after

theorem isListed_join_problemText {cards : List Scorecard} (hc : card ∈ cards)
    (hr : result ∈ card.results) (hf : result.outcome = .failed) :
    IsListed (String.join (cards.map (·.problemText))) card result := by
  have ⟨others, rest, ho⟩ := List.append_of_mem hc
  have hn : result ∈ card.nonPassing := List.mem_filter.mpr ⟨hr, by simp [hf]⟩
  have ⟨earlier, later, he⟩ := List.append_of_mem hn
  refine ⟨others, earlier, String.join (later.map (Scorecard.problemLine · ++ "\n")) ++ "\n" ++
    String.join (rest.map (·.problemText)), fun other hm => ?_, ?_⟩
  · have hm : other ∈ card.nonPassing := he ▸ List.mem_append_left _ hm
    exact (List.mem_filter.mp hm).1
  · rw [ho, ← problemLine_of_failed hf]
    have ht : card.problemText = card.problemHeading ++ "\n\n" ++
        String.join ((earlier ++ result :: later).map (Scorecard.problemLine · ++ "\n")) ++
        "\n" := by
      rw [← he]
      rfl
    simp [ht, String.append_assoc]

theorem exists_isListed_problemsText (hc : card ∈ r.problems threshold) (hr : result ∈ card.results)
    (hf : result.outcome = .failed) :
    ∃ blanks : String, (∀ c ∈ blanks.toList, Text.isBlank c = true) ∧
      IsListed (r.problemsText threshold ++ blanks) card result := by
  have ⟨back, hb, ht⟩ :=
    Text.exists_trimRight_append (String.join ((r.problems threshold).map (·.problemText))).toList
  rw [problemsText]
  split
  case h_1 hn => simp [hn] at hc
  case h_2 =>
    refine ⟨String.ofList back, by simpa using hb, ?_⟩
    rw [← String.ofList_append, ht, String.ofList_toList]
    exact isListed_join_problemText hc hr hf

/-! ### The recommendation -/

-- What is recommended when so many checks failed.
def failedAdvice (n : Nat) : String :=
  "- Fix the checks that failed (" ++ toString n ++ "); details are listed above."

theorem failedAdvice_mem_recommendations_iff {n : Nat} :
    failedAdvice n ∈ r.recommendations ↔ n = r.count .failed ∧ 0 < n :=
  line_mem_recommendations_iff (t := .failures)

/-! ### What is announced and what is listed -/

-- The number of all checks that failed is announced behind the section on problems. The section
-- lists the checks that failed, except those of patterns that reach the threshold.
structure Announces (r : Report) (threshold : Float) : Prop where
  order     : ∃ before after, r.markdown threshold = sectionsText (before ++ [
    "## Problem Patterns (below " ++ thresholdText threshold ++ "%)",
    r.problemsText threshold,
    "## Recommendations",
    Text.joinStrings "\n" r.recommendations] ++ after)
  announced : ∀ n, failedAdvice n ∈ r.recommendations ↔ n = r.count .failed ∧ 0 < n
  listed    : ∀ card ∈ r.scorecards, card.successRate < threshold →
    ∀ result ∈ card.results, result.outcome = .failed →
      ∃ blanks : String, (∀ c ∈ blanks.toList, Text.isBlank c = true) ∧
        IsListed (r.problemsText threshold ++ blanks) card result
  counted   : (∀ card ∈ r.scorecards, card.IsPlain) →
    failedLines (r.problemsText threshold).toList +
      total (·.count .failed) (r.scorecards.filter fun card => !(card.successRate < threshold)) =
        r.count .failed

theorem announces (r : Report) (threshold : Float) : r.Announces threshold where
  order := by
    refine ⟨r.opening ++ r.moduleSections, ["## Legend", legend], ?_⟩
    rw [List.append_assoc]
    rfl
  announced _ := failedAdvice_mem_recommendations_iff
  listed card hc ht result := exists_isListed_problemsText
    (List.mem_filter.mpr ⟨hc, decide_eq_true ht⟩)
  counted h := by
    rw [failedLines_problemsText h]
    exact total_filter_add (·.count .failed) (fun card => card.successRate < threshold) r.scorecards

end Report

namespace Sample

def leak : CheckResult := ⟨"asan:secure.cpp", .failed, "leak"⟩

-- Nine of ten checks passed.
def nearly : Scorecard where
  patternName := "pool"
  module      := "concurrency"
  directory   := ⟨"/concurrency/pool"⟩
  results     := List.replicate 9 ⟨"compile:secure.cpp", .passed, ""⟩ ++ [leak]

def broken : Scorecard :=
  .fault "queue" "concurrency" ⟨"/concurrency/queue"⟩ "no sources"

theorem isPlain_nearly : nearly.IsPlain where
  patternName := by decide
  module      := by decide
  names       := by decide

def twoFailures : Report :=
  .of id .full ⟨0, 0⟩ [nearly, broken]

-- Two checks failed, and one of them is listed.
theorem one_of_two_failures_listed :
    twoFailures.Announces 80 ∧ Report.failedAdvice 2 ∈ twoFailures.recommendations ∧
    Report.failedLines (twoFailures.problemsText 80).toList = 1 := by
  have ha := Report.announces twoFailures 80
  have hp : ∀ card ∈ twoFailures.scorecards, card.IsPlain :=
    List.forall_mem_cons.mpr ⟨isPlain_nearly, List.forall_mem_singleton.mpr
      ⟨by decide, by decide, by decide⟩⟩
  have hn : twoFailures.count .failed = 2 := by decide +kernel
  have ht : total (·.count .failed)
      (twoFailures.scorecards.filter fun card => !(card.successRate < 80)) = 1 := by
    decide +kernel
  have hc := (ha.counted hp).trans hn
  rw [ht] at hc
  exact ⟨ha, (ha.announced 2).mpr ⟨hn.symm, by decide⟩, Nat.add_right_cancel hc⟩

def oneFailure : Report :=
  .of id .full ⟨0, 0⟩ [nearly]

-- One check failed and is announced as listed, but no line of the section is about it.
theorem announced_failure_not_listed :
    nearly ∈ oneFailure.scorecards ∧ leak ∈ nearly.results ∧ leak.outcome = .failed ∧
    Report.failedAdvice 1 ∈ oneFailure.recommendations ∧
    (Report.failedLine leak).toList ∉ Text.split '\n' (oneFailure.problemsText 80).toList := by
  have hp : ∀ card ∈ oneFailure.scorecards, card.IsPlain :=
    List.forall_mem_singleton.mpr isPlain_nearly
  have hl : Report.failedLines (oneFailure.problemsText 80).toList = 0 := by
    rw [Report.failedLines_problemsText hp]
    decide +kernel
  have hf : Report.failedMark.isPrefixOf (Report.failedLine leak).toList = true := by
    decide +kernel
  have ha : Report.failedAdvice 1 ∈ oneFailure.recommendations :=
    Report.failedAdvice_mem_recommendations_iff.mpr ⟨by decide +kernel, by decide⟩
  exact ⟨List.mem_singleton_self _, by decide, rfl, ha,
    fun hm => List.countP_eq_zero.mp hl _ hm hf⟩

end Sample
end CourseAudit
