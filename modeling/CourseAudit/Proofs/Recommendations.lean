import CourseAudit.Proofs.Sections

/-!
What a report recommends. There are five topics. Each of them has a line of its own if there is
something to do about it, and the line tells how much. Main statement:
`Report.line_mem_recommendations_iff`.
-/
namespace CourseAudit.Report

open Scorecard (resultsOf countP_resultsOf)

inductive Topic where
  | sources
  | failures
  | doubts
  | analyzers
  | reviews
  deriving DecidableEq, Repr

theorem newline_not_mem_toString (n : Nat) : '\n' ∉ (toString n).toList :=
  fun h => absurd (isDigit_of_mem_toString h) (by decide)

namespace Topic

def all : List Topic :=
  [.sources, .failures, .doubts, .analyzers, .reviews]

theorem mem_all (t : Topic) : t ∈ all := by
  cases t <;> decide

-- The line of a topic up to the number.
def front : Topic → String
  | .sources => "- Add the missing vulnerable or secure sources ("
  | .failures => "- Fix the checks that failed ("
  | .doubts => "- Investigate inconclusive checks ("
  | .analyzers => "- Install the missing static analyzers to run "
  | .reviews => "- Review "

-- The line of a topic behind the number.
def back : Topic → String
  | .sources => " patterns)."
  | .failures => "); details are listed above."
  | .doubts => "): usually a timeout or a crash without a known sanitizer diagnostic."
  | .analyzers => " skipped checks."
  | .reviews => " exploit demonstrations by hand."

def line (t : Topic) (n : Nat) : String :=
  t.front ++ toString n ++ t.back

-- How much there is to do.
def count (r : Report) : Topic → Nat
  | .sources => r.missingSources
  | .failures => r.count .failed
  | .doubts => r.count .inconclusive
  | .analyzers => r.missingAnalyzers
  | .reviews => r.count .manualReview

-- What is recommended if there is nothing to do about any topic.
def nothing : String :=
  "- Nothing to do. Every check passed."

/-! ### Lines are told apart -/

theorem line_eq (t : Topic) (n : Nat) : t.line n = t.front ++ (toString n ++ t.back) :=
  String.append_assoc

-- The first five characters, which tell the topic.
def initial : Topic → List Char
  | .sources => ['-', ' ', 'A', 'd', 'd']
  | .failures => ['-', ' ', 'F', 'i', 'x']
  | .doubts => ['-', ' ', 'I', 'n', 'v']
  | .analyzers => ['-', ' ', 'I', 'n', 's']
  | .reviews => ['-', ' ', 'R', 'e', 'v']

theorem take_line (t : Topic) (n : Nat) : (t.line n).toList.take 5 = t.initial := by
  have hf : ∃ rest, t.front.toList = t.initial ++ rest := by
    cases t <;> exact ⟨_, String.toList_ofList⟩
  obtain ⟨rest, hf⟩ := hf
  have hl : t.initial.length = 5 := by cases t <;> rfl
  rw [line_eq, String.toList_append, hf, List.append_assoc, ← hl, List.take_left]

theorem line_inj {t u : Topic} {n m : Nat} : t.line n = u.line m ↔ t = u ∧ n = m := by
  refine ⟨fun h => ?_, fun ⟨ht, hn⟩ => ht ▸ hn ▸ rfl⟩
  have hf := congrArg (fun line : String => line.toList.take 5) h
  rw [take_line, take_line] at hf
  have ht : t = u := by
    revert hf
    cases t <;> cases u <;> decide
  subst ht
  rw [line_eq, line_eq, String.append_right_inj, String.append_left_inj] at h
  have hr := congrArg (fun digits : String => readNumber digits.toList) h
  exact ⟨rfl, by simpa only [readNumber_toString, Option.some.injEq] using hr⟩

theorem line_ne_nothing (t : Topic) (n : Nat) : t.line n ≠ nothing := by
  intro h
  have hf := congrArg (fun line : String => line.toList.take 5) h
  rw [take_line, nothing, String.toList_ofList] at hf
  revert hf
  cases t <;> decide

theorem newline_not_mem_line (t : Topic) (n : Nat) : '\n' ∉ (t.line n).toList := by
  have hf : '\n' ∉ t.front.toList := by
    cases t <;> rw [front, String.toList_ofList] <;> decide
  have hb : '\n' ∉ t.back.toList := by
    cases t <;> rw [back, String.toList_ofList] <;> decide
  simp only [line, String.toList_append, List.mem_append, not_or]
  exact ⟨⟨hf, newline_not_mem_toString n⟩, hb⟩

end Topic

variable {r : Report}

/-! ### The lines of a report -/

theorem advice_eq (r : Report) :
    r.advice = Topic.all.map fun t => (t.count r, fun n => t.front ++ n ++ t.back) :=
  rfl

-- The lines of all topics on which there is something to do.
def lines (r : Report) : List String :=
  (Topic.all.filter (0 < ·.count r)).map fun t => t.line (t.count r)

theorem map_advice {f : Nat × (String → String) → String}
    (h : ∀ n text, f (n, text) = text (toString n)) :
    (r.advice.filter (0 < ·.1)).map f = r.lines := by
  rw [advice_eq, List.filter_map, List.map_map]
  exact List.map_congr_left fun t _ => h _ _

theorem recommendations_eq (r : Report) :
    r.recommendations = if r.lines = [] then [Topic.nothing] else r.lines := by
  rw [recommendations, map_advice fun _ _ => rfl]
  split
  case h_1 hn => rw [hn, if_pos rfl]; rfl
  case h_2 hn => rw [if_neg hn]

theorem line_mem_lines_iff {t : Topic} {n : Nat} : t.line n ∈ r.lines ↔ n = t.count r ∧ 0 < n := by
  simp only [lines, List.mem_map, List.mem_filter, Topic.mem_all, true_and, decide_eq_true_eq,
    Topic.line_inj]
  constructor
  case mp =>
    rintro ⟨u, hu, rfl, rfl⟩
    exact ⟨rfl, hu⟩
  case mpr =>
    rintro ⟨rfl, hn⟩
    exact ⟨t, hn, rfl, rfl⟩

-- The line of a topic is there if there is something to do about it, and it has the right number.
theorem line_mem_recommendations_iff {t : Topic} {n : Nat} :
    t.line n ∈ r.recommendations ↔ n = t.count r ∧ 0 < n := by
  rw [recommendations_eq, ← line_mem_lines_iff]
  split
  case isTrue hn => simp [hn, t.line_ne_nothing n]
  case isFalse => rfl

theorem lines_eq_nil_iff : r.lines = [] ↔ ∀ t : Topic, t.count r = 0 := by
  simp only [lines, List.map_eq_nil_iff, List.filter_eq_nil_iff, decide_eq_true_eq, Topic.mem_all,
    true_imp_iff, Nat.not_lt, Nat.le_zero]

theorem nothing_mem_recommendations_iff :
    Topic.nothing ∈ r.recommendations ↔ ∀ t : Topic, t.count r = 0 := by
  rw [recommendations_eq, ← lines_eq_nil_iff]
  split
  case isTrue hn => exact iff_of_true (List.mem_singleton_self _) hn
  case isFalse hn =>
    refine iff_of_false (fun hm => ?_) hn
    obtain ⟨t, -, ht⟩ := List.mem_map.mp hm
    exact t.line_ne_nothing _ ht

theorem recommendations_ne_nil (r : Report) : r.recommendations ≠ [] := by
  rw [recommendations_eq]
  split
  case isTrue => exact List.cons_ne_nil _ _
  case isFalse hn => exact hn

theorem newline_not_mem_recommendations : ∀ line ∈ r.recommendations, '\n' ∉ line.toList := by
  intro line hm
  rw [recommendations_eq] at hm
  split at hm
  case isTrue =>
    rw [List.mem_singleton.mp hm, Topic.nothing, String.toList_ofList]
    decide
  case isFalse =>
    obtain ⟨t, -, rfl⟩ := List.mem_map.mp hm
    exact t.newline_not_mem_line _

theorem splitString_recommendations (r : Report) :
    Text.splitString '\n' (Text.joinStrings "\n" r.recommendations) = r.recommendations := by
  have hj : (Text.joinStrings "\n" r.recommendations).toList =
      Text.join ['\n'] (r.recommendations.map String.toList) :=
    String.toList_ofList
  rw [Text.splitString, hj, Text.split_join (mt List.map_eq_nil_iff.mp r.recommendations_ne_nil)
    (List.forall_mem_map.mpr newline_not_mem_recommendations), List.map_map]
  exact List.map_id'' (fun _ => String.ofList_toList) _

-- The written report has a section with the recommendations, one on each line.
structure ShowsAdvice (r : Report) (threshold : Float) : Prop where
  shown : ∃ before after, r.markdown threshold = sectionsText (before ++ [
    "## Recommendations",
    Text.joinStrings "\n" r.recommendations] ++ after)
  lines : Text.splitString '\n' (Text.joinStrings "\n" r.recommendations) = r.recommendations

theorem showsAdvice (r : Report) (threshold : Float) : r.ShowsAdvice threshold where
  shown := by
    refine ⟨r.opening ++ r.moduleSections ++ [
      "## Problem Patterns (below " ++ thresholdText threshold ++ "%)",
      r.problemsText threshold], ["## Legend", legend], ?_⟩
    simp only [List.append_assoc]
    rfl
  lines := r.splitString_recommendations

end CourseAudit.Report
