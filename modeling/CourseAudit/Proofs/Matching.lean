import Mathlib.Logic.Function.Iterate
import CourseAudit.Regex.Basic

/-!
The places that are computed for an expression are those where its matches end. Main statements:
`follows_reach` and `isMatch_iff`.
-/
namespace CourseAudit.Regex

-- A step that is taken so many times in a row.
inductive Row (step : Nat → Nat → Prop) : Nat → Nat → Nat → Prop
  | nil {i : Nat} : Row step 0 i i
  | cons {n i j k : Nat} : step i j → Row step n j k → Row step (n + 1) i k

namespace Row

variable {step : Nat → Nat → Prop} {m n i j k : Nat}

theorem zero_iff : Row step 0 i k ↔ i = k := by
  constructor
  case mp => rintro ⟨⟩; rfl
  case mpr => rintro rfl; exact .nil

theorem succ_iff : Row step (n + 1) i k ↔ ∃ j, step i j ∧ Row step n j k := by
  constructor
  case mp => rintro (_ | ⟨hs, hr⟩); exact ⟨_, hs, hr⟩
  case mpr => rintro ⟨j, hs, hr⟩; exact .cons hs hr

theorem append (h : Row step m i j) (h' : Row step n j k) : Row step (m + n) i k := by
  induction h
  case nil => rwa [Nat.zero_add]
  case cons hs _ hi =>
    rw [Nat.add_right_comm]
    exact .cons hs (hi h')

theorem split (h : Row step (m + n) i k) : ∃ j, Row step m i j ∧ Row step n j k := by
  induction m generalizing i
  case zero => exact ⟨i, .nil, by rwa [Nat.zero_add] at h⟩
  case succ m hi =>
    rw [Nat.add_right_comm] at h
    have ⟨i', hs, hr⟩ := succ_iff.mp h
    have ⟨j, hm, hn⟩ := hi hr
    exact ⟨j, .cons hs hm, hn⟩

theorem one_iff : Row step 1 i k ↔ step i k := by
  simp [succ_iff, zero_iff]

theorem le (hle : ∀ i j, step i j → i ≤ j) (h : Row step n i k) : i ≤ k := by
  induction h
  case nil => exact Nat.le_refl _
  case cons hs _ hi => exact Nat.le_trans (hle _ _ hs) hi

-- Steps that go nowhere can be left out, so there are no more than there is room for.
theorem shorten {size : Nat} (hle : ∀ i j, step i j → i ≤ j)
    (hs : ∀ i j, step i j → i < j → j ≤ size) (h : Row step n i k) :
    ∃ m, m ≤ n ∧ m ≤ size - i ∧ Row step m i k := by
  induction h
  case nil => exact ⟨0, Nat.le_refl _, Nat.zero_le _, .nil⟩
  case cons n i j k hij _ hi =>
    have ⟨m, hn, hm, hr⟩ := hi
    rcases Nat.eq_or_lt_of_le (hle i j hij) with rfl | hlt
    case inl => exact ⟨m, by omega, hm, hr⟩
    case inr =>
      have := hs i j hij hlt
      exact ⟨m + 1, by omega, by omega, .cons hij hr⟩

end Row

/-! ### Lists of places -/

variable {k n : Nat} {places seen fresh : List Nat} {next : List Nat → List Nat}
  {step : Nat → Nat → Prop}

theorem mem_merge (is js : List Nat) : k ∈ merge is js ↔ k ∈ is ∨ k ∈ js := by
  fun_induction merge is js <;> grind

theorem mem_of_mem_without {is js : List Nat} (h : k ∈ without is js) : k ∈ is := by
  fun_induction without is js <;> grind

theorem mem_without {is js : List Nat} (hi : k ∈ is) (hj : k ∉ js) : k ∈ without is js := by
  fun_induction without is js <;> grind

-- A list of places goes where its members go.
def Follows (next : List Nat → List Nat) (step : Nat → Nat → Prop) : Prop :=
  ∀ places k, k ∈ next places ↔ ∃ i ∈ places, step i k

-- Once a step changes nothing, no further one does.
theorem times_eq (next : List Nat → List Nat) (n : Nat) (places : List Nat) :
    times next n places = next^[n] places := by
  induction n generalizing places
  case zero => rfl
  case succ n hi =>
    rw [times, Function.iterate_succ_apply]
    split
    case isTrue h => rw [h, Function.iterate_fixed h]
    case isFalse => exact hi _

theorem Follows.mem_times (h : Follows next step) :
    k ∈ times next n places ↔ ∃ i ∈ places, Row step n i k := by
  rw [times_eq]
  induction n generalizing places
  case zero => simp [Row.zero_iff]
  case succ n hi =>
    rw [Function.iterate_succ_apply, hi]
    simp only [h places, Row.succ_iff]
    grind

theorem closure_succ (next : List Nat → List Nat) (n : Nat) (seen fresh : List Nat) :
    closure next (n + 1) seen fresh =
      if without (next fresh) seen = [] then seen
      else closure next n (merge seen (without (next fresh) seen)) (without (next fresh) seen) := by
  rw [closure]
  split <;> simp_all

theorem mem_closure_of_mem (h : k ∈ seen) : k ∈ closure next n seen fresh := by
  fun_induction closure next n seen fresh <;> grind [mem_merge]

-- By induction on the rounds. Whatever was followed before has led to what was seen, so a row of
-- steps from a place that was seen stays among such places for one more step in each round.
theorem Follows.mem_closure (h : Follows next step) {i m : Nat} (hf : ∀ i ∈ fresh, i ∈ seen)
    (hs : ∀ i ∈ seen, i ∉ fresh → ∀ j, step i j → j ∈ seen) (hi : i ∈ seen) (hm : m ≤ n)
    (hr : Row step m i k) : k ∈ closure next n seen fresh := by
  induction n generalizing seen fresh i m
  case zero =>
    obtain rfl := Nat.le_zero.mp hm
    exact Row.zero_iff.mp hr ▸ hi
  case succ n hn =>
    have hl : ∀ i ∈ seen, ∀ j, step i j → j ∈ seen ∨ j ∈ without (next fresh) seen := by
      intro i hi j hij
      by_cases hif : i ∈ fresh
      case pos =>
        by_cases hj : j ∈ seen
        case pos => exact .inl hj
        case neg => exact .inr (mem_without ((h fresh j).mpr ⟨i, hif, hij⟩) hj)
      case neg => exact .inl (hs i hi hif j hij)
    rw [closure_succ]
    split
    case isTrue hw =>
      clear hn hm
      rw [hw] at hl
      induction hr
      case nil => exact hi
      case cons hij _ hk => exact hk ((hl _ hi _ hij).resolve_right List.not_mem_nil)
    case isFalse =>
      cases hr
      case nil => exact mem_closure_of_mem ((mem_merge ..).mpr (.inl hi))
      case cons m j hij hr =>
        refine hn (fun j hj => (mem_merge ..).mpr (.inr hj)) (fun i hi hnew j hij => ?_)
          ((mem_merge ..).mpr (hl i hi j hij)) (Nat.le_of_succ_le_succ hm) hr
        exact (mem_merge ..).mpr (hl i (((mem_merge ..).mp hi).resolve_right hnew) j hij)

theorem Follows.exists_of_mem_closure (h : Follows next step) (hk : k ∈ closure next n seen fresh) :
    k ∈ seen ∨ ∃ m ≤ n, ∃ i ∈ fresh, Row step m i k := by
  induction n generalizing seen fresh
  case zero => exact .inl hk
  case succ n hn =>
    rw [closure_succ] at hk
    split at hk
    case isTrue => exact .inl hk
    case isFalse =>
      have hnew : ∀ j ∈ without (next fresh) seen, ∃ i ∈ fresh, step i j :=
        fun j hj => (h fresh j).mp (mem_of_mem_without hj)
      rcases hn hk with hk | ⟨m, hm, j, hj, hr⟩
      case inl =>
        rcases (mem_merge ..).mp hk with hk | hk
        case inl => exact .inl hk
        case inr =>
          have ⟨i, hi, hij⟩ := hnew k hk
          exact .inr ⟨1, by omega, i, hi, .cons hij .nil⟩
      case inr =>
        have ⟨i, hi, hij⟩ := hnew j hj
        exact .inr ⟨m + 1, by omega, i, hi, .cons hij hr⟩

theorem Follows.mem_closure_iff (h : Follows next step) :
    k ∈ closure next n places places ↔ ∃ i ∈ places, ∃ m ≤ n, Row step m i k := by
  constructor
  case mp =>
    intro hk
    rcases h.exists_of_mem_closure hk with hk | ⟨m, hm, i, hi, hr⟩
    case inl => exact ⟨k, hk, 0, Nat.zero_le _, .nil⟩
    case inr => exact ⟨i, hi, m, hm, hr⟩
  case mpr =>
    rintro ⟨i, hi, m, hm, hr⟩
    exact h.mem_closure (fun _ hf => hf) (fun _ hs hf => (hf hs).elim) hi hm hr

/-! ### Matches -/

section

variable {text : Array Char} {r : Regex} {i j : Nat}

theorem standsAt_bound {cs : List Char} (h : standsAt text cs i = true) :
    cs = [] ∨ i + cs.length ≤ text.size := by
  induction cs generalizing i
  case nil => exact .inl rfl
  case cons c cs hi =>
    rw [standsAt, Bool.and_eq_true, decide_eq_true_eq] at h
    have := (Array.getElem?_eq_some_iff.mp h.1).1
    rcases hi h.2 with rfl | hb
    case inl => exact .inr this
    case inr => exact .inr (by rw [List.length_cons]; omega)

-- A match does not go backwards, and it does not go on behind the end of the text.
theorem Matches.bounds (h : Matches text r i j) : i ≤ j ∧ (i < j → j ≤ text.size) := by
  induction h
  case literal cs i ok =>
    rcases standsAt_bound ok with rfl | hb
    case inl => simp
    case inr => exact ⟨by omega, fun _ => hb⟩
  case set mem _ =>
    have := (Array.getElem?_eq_some_iff.mp mem).1
    omega
  all_goals omega

theorem matches_empty_iff : Matches text .empty i k ↔ i = k := by
  constructor
  case mp => rintro ⟨⟩; rfl
  case mpr => rintro rfl; exact .empty

theorem matches_literal_iff {cs : List Char} :
    Matches text (.literal cs) i k ↔ standsAt text cs i = true ∧ i + cs.length = k := by
  constructor
  case mp => rintro ⟨⟩; exact ⟨‹_›, rfl⟩
  case mpr => rintro ⟨ok, rfl⟩; exact .literal ok

theorem matches_set_iff {s : CharSet} :
    Matches text (.set s) i k ↔
      ∃ c, text[i]? = some c ∧ s.contains c.toNat = true ∧ i + 1 = k := by
  constructor
  case mp => rintro ⟨⟩; exact ⟨_, ‹_›, ‹_›, rfl⟩
  case mpr => rintro ⟨c, mem, ok, rfl⟩; exact .set mem ok

theorem matches_look_iff {l : Look} :
    Matches text (.look l) i k ↔ l.holds (before text i) text[i]? = true ∧ i = k := by
  constructor
  case mp => rintro ⟨⟩; exact ⟨‹_›, rfl⟩
  case mpr => rintro ⟨ok, rfl⟩; exact .look ok

theorem matches_seq_iff {s : Regex} :
    Matches text (.seq r s) i k ↔ ∃ j, Matches text r i j ∧ Matches text s j k := by
  constructor
  case mp => rintro ⟨⟩; exact ⟨_, ‹_›, ‹_›⟩
  case mpr => rintro ⟨j, left, right⟩; exact .seq left right

theorem matches_alt_iff {s : Regex} :
    Matches text (.alt r s) i k ↔ Matches text r i k ∨ Matches text s i k := by
  constructor
  case mp => rintro (_ | _); exacts [.inl ‹_›, .inr ‹_›]
  case mpr => exact fun h => h.elim .altLeft .altRight

theorem matches_capture_iff {index : Nat} :
    Matches text (.capture index r) i k ↔ Matches text r i k := by
  constructor
  case mp => rintro ⟨⟩; assumption
  case mpr => exact .capture

theorem matches_repeat_iff {least : Nat} {most : Option Nat} {greedy : Bool} :
    Matches text (.repeat r least most greedy) i k ↔
      ∃ n, least ≤ n ∧ (∀ m, most = some m → n ≤ m) ∧ Row (Matches text r) n i k := by
  constructor
  case mp =>
    intro h
    generalize hs : Regex.repeat r least most greedy = s at h
    induction h generalizing least most
    case none => cases hs; exact ⟨0, by omega, by simp, .nil⟩
    case more room one _ _ hi =>
      cases hs
      have ⟨n, hl, hm, hr⟩ := hi rfl
      refine ⟨n + 1, by omega, fun m hmost => ?_, .cons one hr⟩
      subst hmost
      have := hm (m - 1) rfl
      have : m ≠ 0 := fun h0 => room (h0 ▸ rfl)
      omega
    all_goals cases hs
  case mpr =>
    rintro ⟨n, hl, hm, hr⟩
    induction hr generalizing least most
    case nil =>
      obtain rfl := Nat.le_zero.mp hl
      exact .none
    case cons n i j k one _ hi =>
      refine .more (fun h0 => absurd (hm 0 h0) (by omega)) one (hi (by omega) fun m hmost => ?_)
      obtain ⟨m', rfl, rfl⟩ := Option.map_eq_some_iff.mp hmost
      have := hm m' rfl
      omega

-- Behind the times that are asked for, as many more as are allowed; without a bound on them, there
-- are no more than there are places left.
theorem repeat_row_iff {least : Nat} {most : Option Nat} (hp : ∀ m, most = some m → least ≤ m) :
    (∃ j, Row (Matches text r) least i j ∧
      ∃ m ≤ (most.map (· - least)).getD (text.size + 1), Row (Matches text r) m j k) ↔
      ∃ n, least ≤ n ∧ (∀ m, most = some m → n ≤ m) ∧ Row (Matches text r) n i k := by
  constructor
  case mp =>
    rintro ⟨j, hij, m, hm, hjk⟩
    refine ⟨least + m, Nat.le_add_right .., fun b hb => ?_, hij.append hjk⟩
    subst hb
    have := hp b rfl
    simp only [Option.map_some, Option.getD_some] at hm
    omega
  case mpr =>
    rintro ⟨n, hl, hm, hr⟩
    obtain ⟨m, rfl⟩ := Nat.exists_eq_add_of_le hl
    have ⟨j, hij, hjk⟩ := hr.split
    cases most
    case none =>
      have ⟨m', _, hm', hr'⟩ := hjk.shorten (fun _ _ h => h.bounds.1) fun _ _ h => h.bounds.2
      exact ⟨j, hij, m', by simp only [Option.map_none, Option.getD_none]; omega, hr'⟩
    case some b =>
      have := hm b rfl
      exact ⟨j, hij, m, by simp only [Option.map_some, Option.getD_some]; omega, hjk⟩

end

-- No repetition is to be made more often at least than at most.
def IsProper : Regex → Prop
  | .seq r s | .alt r s => r.IsProper ∧ s.IsProper
  | .repeat r least most _ => (∀ m, most = some m → least ≤ m) ∧ r.IsProper
  | .capture _ r => r.IsProper
  | _ => True

-- By induction on the expression.
theorem follows_reach {text : Array Char} {r : Regex} (hr : r.IsProper) :
    Follows (reach text r) (Matches text r) := by
  induction r
  case empty => intro places k; simp [reach, matches_empty_iff]
  case literal cs => intro places k; simp [reach, matches_literal_iff]
  case set s =>
    intro places k
    simp only [reach, matches_set_iff, List.mem_filterMap]
    refine exists_congr fun i => and_congr_right fun _ => ?_
    cases text[i]? <;> simp
  case look l =>
    intro places k
    simp only [reach, matches_look_iff, List.mem_filter]
    grind
  case seq r s hi hi' =>
    intro places k
    rw [reach, hi' hr.2]
    simp only [hi hr.1 places, matches_seq_iff]
    grind
  case alt r s hi hi' =>
    intro places k
    rw [reach, mem_merge, hi hr.1, hi' hr.2]
    simp only [matches_alt_iff]
    grind
  case capture index r hi =>
    intro places k
    rw [reach, hi hr]
    simp only [matches_capture_iff]
  case «repeat» r least most greedy hi =>
    intro places k
    have hf := hi hr.2
    rw [reach, hf.mem_closure_iff]
    simp only [hf.mem_times, matches_repeat_iff, ← repeat_row_iff hr.1]
    grind

-- An expression is found in a text if it matches from some place to another.
theorem isMatch_iff {r : Regex} (hr : r.IsProper) {text : List Char} :
    r.isMatch text = true ↔ ∃ i ≤ text.length, ∃ k, Matches text.toArray r i k := by
  rw [isMatch, Bool.not_eq_true', List.isEmpty_eq_false_iff_exists_mem]
  simp only [follows_reach hr _ _, List.mem_range, List.size_toArray, Nat.lt_succ_iff]
  grind

end CourseAudit.Regex
