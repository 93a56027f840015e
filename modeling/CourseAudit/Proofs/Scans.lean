import CourseAudit.Proofs.Spans

/-!
Searching a text for all that an expression matches. The search goes on behind each match, so it can
pass over a match that overlaps the one before. From a place it takes the match that the expression
prefers: the left branch of a choice before the right one, and with a greedy repetition one more
round before none. Main statement: `Apart.mem_pieces_iff` (where matches are apart, none is passed
over).
-/
namespace CourseAudit.Regex

/-! ### Ends in the order of preference -/

-- So many steps in a row.
def rounds (step : Nat → List Nat) : Nat → Nat → List Nat
  | 0, i => [i]
  | n + 1, i => (step i).flatMap (rounds step n)

-- Steps up to a number of them, where one that goes nowhere is the last.
def furtherRounds (step : Nat → List Nat) (greedy : Bool) : Nat → Nat → List Nat
  | 0, i => [i]
  | n + 1, i =>
    let more := (step i).flatMap fun j => if j = i then [i] else furtherRounds step greedy n j
    if greedy then more ++ [i] else i :: more

-- Where a match from a place ends.
def ends (text : Array Char) : Regex → Nat → List Nat
  | .empty, i => [i]
  | .literal cs, i => if standsAt text cs i then [i + cs.length] else []
  | .set s, i =>
    match text[i]? with
    | some c => if s.contains c.toNat then [i + 1] else []
    | none => []
  | .look l, i => if l.holds (before text i) text[i]? then [i] else []
  | .seq r s, i => (ends text r i).flatMap (ends text s)
  | .alt r s, i => ends text r i ++ ends text s i
  | .capture _ r, i => ends text r i
  | .repeat r least most greedy, i =>
    (rounds (ends text r) least i).flatMap
      (furtherRounds (ends text r) greedy ((most.map (· - least)).getD (text.size + 1)))

section

variable {step : Nat → List Nat} {greedy : Bool} {n i k : Nat}

theorem mem_rounds : k ∈ rounds step n i ↔ Row (fun i j => j ∈ step i) n i k := by
  induction n generalizing i
  case zero => rw [Row.zero_iff, rounds, List.mem_singleton, eq_comm]
  case succ n hi => simp only [rounds, List.mem_flatMap, Row.succ_iff, hi]

theorem mem_furtherRounds_succ :
    k ∈ furtherRounds step greedy (n + 1) i ↔
      k = i ∨ ∃ j ∈ step i, j ≠ i ∧ k ∈ furtherRounds step greedy n j := by
  have hm : k ∈ ((step i).flatMap fun j => if j = i then [i] else furtherRounds step greedy n j) ↔
      k = i ∧ i ∈ step i ∨ ∃ j ∈ step i, j ≠ i ∧ k ∈ furtherRounds step greedy n j := by
    rw [List.mem_flatMap]
    grind
  rw [furtherRounds]
  cases greedy <;> simp only [if_true, Bool.false_eq_true, if_false, List.mem_append,
    List.mem_cons, List.not_mem_nil, or_false, hm] <;> grind

-- Steps that go nowhere are not needed to reach a place.
theorem mem_furtherRounds :
    k ∈ furtherRounds step greedy n i ↔ ∃ m ≤ n, Row (fun i j => j ∈ step i) m i k := by
  induction n generalizing i
  case zero =>
    rw [furtherRounds, List.mem_singleton]
    constructor
    case mp => rintro rfl; exact ⟨0, Nat.le_refl _, .nil⟩
    case mpr =>
      rintro ⟨m, hm, hr⟩
      obtain rfl := Nat.le_zero.mp hm
      exact (Row.zero_iff.mp hr).symm
  case succ n hi =>
    rw [mem_furtherRounds_succ]
    simp only [hi]
    constructor
    case mp =>
      rintro (rfl | ⟨j, hj, _, m, hm, hr⟩)
      case inl => exact ⟨0, Nat.zero_le _, .nil⟩
      case inr => exact ⟨m + 1, Nat.succ_le_succ hm, .cons hj hr⟩
    case mpr =>
      rintro ⟨m, hm, hr⟩
      clear hi
      -- The first step that goes somewhere decides.
      induction hr
      case nil => exact .inl rfl
      case cons m i j k hj hr hk =>
        by_cases hji : j = i
        case pos => exact hji ▸ hk (Nat.le_of_succ_le hm)
        case neg => exact .inr ⟨j, hj, hji, m, Nat.le_of_succ_le_succ hm, hr⟩

end

-- By induction on the expression.
theorem mem_ends {text : Array Char} {r : Regex} (hr : r.IsProper) {i k : Nat} :
    k ∈ ends text r i ↔ Matches text r i k := by
  induction r generalizing i k
  case empty => rw [ends, matches_empty_iff, List.mem_singleton, eq_comm]
  case literal cs =>
    rw [ends, matches_literal_iff]
    grind
  case set s =>
    rw [ends, matches_set_iff]
    grind
  case look l =>
    rw [ends, matches_look_iff]
    grind
  case seq r s hi hi' => simp only [ends, List.mem_flatMap, hi hr.1, hi' hr.2, matches_seq_iff]
  case alt r s hi hi' => simp only [ends, List.mem_append, hi hr.1, hi' hr.2, matches_alt_iff]
  case capture index r hi => rw [ends, hi hr, matches_capture_iff]
  case «repeat» r least most greedy hi =>
    simp only [ends, List.mem_flatMap, mem_rounds, mem_furtherRounds, hi hr.2, matches_repeat_iff,
      ← repeat_row_iff hr.1]

/-! ### All matches -/

-- Looks for matches from some places in turn, behind the end of the last match. No match that takes
-- nothing counts right behind the last one.
def scan (text : Array Char) (r : Regex) (last : Option Nat) : List Nat → List (Nat × Nat)
  | [] => []
  | i :: places =>
    match (ends text r i).head? with
    | some j =>
      if last.any (i < ·) ∨ last = some i ∧ j = i then scan text r last places
      else (i, j) :: scan text r (some j) places
    | none => scan text r last places

-- All matches that the search finds, from the first one to the last.
def found (text : Array Char) (r : Regex) : List (Nat × Nat) :=
  scan text r none (List.range (text.size + 1))

-- The pieces of a text that the search finds.
def pieces (text : List Char) (r : Regex) : List (List Char) :=
  (found text.toArray r).map fun (i, j) => (text.drop i).take (j - i)

-- No match is empty, and of two matches one ends before the other begins.
structure Apart (text : Array Char) (r : Regex) : Prop where
  nonempty : ∀ i j, i ≤ text.size → Matches text r i j → i < j
  apart    : ∀ i j i' j', i ≤ i' → i' ≤ text.size → Matches text r i j → Matches text r i' j' →
    i = i' ∧ j = j' ∨ j ≤ i'

section

variable {text : Array Char} {r : Regex} {i j : Nat}

theorem matches_of_head? (hr : r.IsProper) (h : (ends text r i).head? = some j) :
    Matches text r i j :=
  (mem_ends hr).mp (List.mem_of_head? h)

-- Whatever is found is a match.
theorem of_mem_scan (hr : r.IsProper) {last : Option Nat} {places : List Nat}
    (h : (i, j) ∈ scan text r last places) : i ∈ places ∧ Matches text r i j := by
  induction places generalizing last
  case nil => cases h
  case cons k places hi =>
    rw [scan] at h
    split at h
    case h_1 e he =>
      split at h
      case isTrue => exact (hi h).imp_left (List.mem_cons_of_mem k)
      case isFalse =>
        rcases List.mem_cons.mp h with heq | h
        case inl => cases heq; exact ⟨List.mem_cons_self, matches_of_head? hr he⟩
        case inr => exact (hi h).imp_left (List.mem_cons_of_mem k)
    case h_2 => exact (hi h).imp_left (List.mem_cons_of_mem k)

-- By induction on the places. No match that is still to come begins before the end of the last one.
theorem Apart.mem_scan (h : Apart text r) (hr : r.IsProper) {last : Option Nat}
    {places : List Nat} (hp : places.Pairwise (· < ·)) (hs : ∀ i ∈ places, i ≤ text.size)
    (hl : ∀ e, last = some e → ∀ i ∈ places, ∀ j, Matches text r i j → e ≤ i) (hi : i ∈ places)
    (hm : Matches text r i j) : (i, j) ∈ scan text r last places := by
  induction places generalizing last
  case nil => cases hi
  case cons k places hrest =>
    have ⟨hk, hp⟩ := List.pairwise_cons.mp hp
    have ⟨hks, hs⟩ := List.forall_mem_cons.mp hs
    rw [scan]
    split
    case h_1 e he =>
      have hke := matches_of_head? hr he
      have hlt := h.nonempty _ _ hks hke
      have hfree : ¬(last.any (k < ·) ∨ last = some k ∧ e = k) := by
        rintro (hb | ⟨_, rfl⟩)
        case inl =>
          obtain ⟨b, rfl, hb⟩ := (Option.any_eq_true ..).mp hb
          exact absurd (hl b rfl k List.mem_cons_self e hke) (by simpa using hb)
        case inr => exact Nat.lt_irrefl _ hlt
      have hl' : ∀ b, some e = some b → ∀ i ∈ places, ∀ j, Matches text r i j → b ≤ i := by
        rintro _ ⟨⟩ i hi j hij
        have := hk i hi
        have := h.apart _ _ _ _ (Nat.le_of_lt this) (hs i hi) hke hij
        omega
      rw [if_neg hfree]
      rcases List.mem_cons.mp hi with rfl | hi
      case inl =>
        rcases h.apart _ _ _ _ (Nat.le_refl _) hks hke hm with ⟨_, rfl⟩ | hle
        case inl => exact List.mem_cons_self
        case inr => exact absurd hle (Nat.not_le.mpr hlt)
      case inr => exact List.mem_cons_of_mem _ (hrest hp hs hl' hi)
    case h_2 hn =>
      rcases List.mem_cons.mp hi with rfl | hi
      case inl =>
        rw [← mem_ends hr, List.head?_eq_none_iff.mp hn] at hm
        exact (List.not_mem_nil hm).elim
      case inr => exact hrest hp hs (fun e he i hi => hl e he i (List.mem_cons_of_mem _ hi)) hi

-- Where matches are apart, the search finds every one of them.
theorem Apart.mem_found_iff (h : Apart text r) (hr : r.IsProper) :
    (i, j) ∈ found text r ↔ i ≤ text.size ∧ Matches text r i j := by
  have hs : ∀ i ∈ List.range (text.size + 1), i ≤ text.size :=
    fun i hi => Nat.le_of_lt_succ (List.mem_range.mp hi)
  constructor
  case mp => exact fun hf => (of_mem_scan hr hf).imp_left (hs i)
  case mpr =>
    rintro ⟨hi, hm⟩
    have hl : ∀ e, (none : Option Nat) = some e → ∀ i ∈ List.range (text.size + 1), ∀ j,
        Matches text r i j → e ≤ i := fun _ he => nomatch he
    exact h.mem_scan hr List.pairwise_lt_range hs hl (List.mem_range.mpr (Nat.lt_succ_of_le hi)) hm

end

theorem Apart.mem_pieces_iff {text : List Char} {r : Regex} (h : Apart text.toArray r)
    (hr : r.IsProper) {piece : List Char} :
    piece ∈ pieces text r ↔
      ∃ front rest, text = front ++ piece ++ rest ∧ r.Spans front piece rest := by
  rw [pieces, List.mem_map]
  constructor
  case mp =>
    rintro ⟨⟨i, j⟩, hf, rfl⟩
    have ⟨hi, hm⟩ := (h.mem_found_iff hr).mp hf
    obtain ⟨front, piece, rest, rfl, rfl, rfl, hs⟩ := hm.exists_spans hi
    exact ⟨front, rest, by simp, by simpa using hs⟩
  case mpr =>
    rintro ⟨front, rest, rfl, hs⟩
    exact ⟨(front.length, front.length + piece.length), (h.mem_found_iff hr).mpr ⟨by simp, hs⟩,
      by simp⟩

end CourseAudit.Regex
