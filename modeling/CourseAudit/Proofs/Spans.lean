import CourseAudit.Proofs.Matching

/-!
Matches as pieces of a text. What an expression matches is told by the piece, by what is in front of
it and by what is behind it, with one equivalence for each form of expression. Main statement:
`isMatch_iff_spans`.
-/
namespace CourseAudit.Regex

-- The expression matches a piece of a text, between what is in front of the piece and what is
-- behind it.
def Spans (r : Regex) (front piece rest : List Char) : Prop :=
  Matches (front ++ piece ++ rest).toArray r front.length (front.length + piece.length)

section

variable {r s : Regex} {set : CharSet} {front piece rest : List Char}

-- A list is cut at every place up to its length.
theorem exists_cut {text : List Char} {n : Nat} (h : n ≤ text.length) :
    ∃ a b, text = a ++ b ∧ a.length = n :=
  ⟨text.take n, text.drop n, (List.take_append_drop ..).symm, List.length_take_of_le h⟩

theorem before_length : before (front ++ rest).toArray front.length = front.getLast? := by
  rw [before, List.getLast?_eq_getElem?]
  split
  case isTrue h => simp [List.length_eq_zero_iff.mp h]
  case isFalse h => rw [List.getElem?_toArray, List.getElem?_append_left (by omega)]

theorem getElem?_length : (front ++ rest).toArray[front.length]? = rest.head? := by
  rw [List.getElem?_toArray, List.getElem?_append_right (Nat.le_refl _), Nat.sub_self,
    List.head?_eq_getElem?]

theorem standsAt_iff {cs : List Char} :
    standsAt (front ++ rest).toArray cs front.length = true ↔ cs <+: rest := by
  induction cs generalizing front rest
  case nil => simp [standsAt]
  case cons c cs hi =>
    rw [standsAt, getElem?_length]
    cases rest
    case nil => simp
    case cons d rest =>
      have hl : front.length + 1 = (front ++ [d]).length := by rw [List.length_append]; rfl
      rw [Bool.and_eq_true, List.append_cons, hl, hi, List.cons_prefix_cons, decide_eq_true_eq]
      simp [eq_comm]

theorem spans_empty_iff : Spans .empty front piece rest ↔ piece = [] := by
  rw [Spans, matches_empty_iff]
  simp

theorem spans_literal_iff {cs : List Char} : Spans (.literal cs) front piece rest ↔ piece = cs := by
  rw [Spans, matches_literal_iff, List.append_assoc, standsAt_iff]
  constructor
  case mp =>
    rintro ⟨hp, hl⟩
    have := List.prefix_of_prefix_length_le hp (List.prefix_append piece rest) (by omega)
    exact (this.eq_of_length (by omega)).symm
  case mpr => rintro rfl; exact ⟨List.prefix_append .., rfl⟩

theorem spans_set_iff :
    Spans (.set set) front piece rest ↔ ∃ c, piece = [c] ∧ set.contains c.toNat = true := by
  rw [Spans, matches_set_iff, List.append_assoc, getElem?_length]
  rcases piece with _ | ⟨c, _ | ⟨d, piece⟩⟩ <;> simp

theorem spans_look_iff {l : Look} :
    Spans (.look l) front piece rest ↔ piece = [] ∧ l.holds front.getLast? rest.head? = true := by
  rw [Spans, matches_look_iff, List.append_assoc, before_length, getElem?_length]
  cases piece <;> simp

theorem spans_seq_iff :
    Spans (.seq r s) front piece rest ↔
      ∃ a b, piece = a ++ b ∧ r.Spans front a (b ++ rest) ∧ s.Spans (front ++ a) b rest := by
  rw [Spans, matches_seq_iff]
  constructor
  case mp =>
    rintro ⟨j, hr, hs⟩
    have hf := hr.bounds.1
    have hp := hs.bounds.1
    obtain ⟨a, b, rfl, ha⟩ := exists_cut (by omega : j - front.length ≤ piece.length)
    obtain rfl : j = front.length + a.length := by omega
    refine ⟨a, b, rfl, ?_, ?_⟩
    case refine_1 => simpa only [Spans, List.append_assoc] using hr
    case refine_2 =>
      simpa only [Spans, List.append_assoc, List.length_append, Nat.add_assoc] using hs
  case mpr =>
    rintro ⟨a, b, rfl, hr, hs⟩
    refine ⟨front.length + a.length, ?_, ?_⟩
    case refine_1 => simpa only [Spans, List.append_assoc] using hr
    case refine_2 =>
      simpa only [Spans, List.append_assoc, List.length_append, Nat.add_assoc] using hs

theorem spans_alt_iff :
    Spans (.alt r s) front piece rest ↔ r.Spans front piece rest ∨ s.Spans front piece rest :=
  matches_alt_iff

theorem spans_capture_iff {index : Nat} :
    Spans (.capture index r) front piece rest ↔ r.Spans front piece rest :=
  matches_capture_iff

-- A row of single characters, by induction on their number.
theorem row_set_iff {n : Nat} :
    Row (Matches (front ++ piece ++ rest).toArray (.set set)) n front.length
      (front.length + piece.length) ↔
        piece.length = n ∧ ∀ c ∈ piece, set.contains c.toNat = true := by
  induction n generalizing front piece
  case zero => rw [Row.zero_iff]; cases piece <;> simp
  case succ n hi =>
    have hs : ∀ j, Matches (front ++ piece ++ rest).toArray (.set set) front.length j ↔
        ∃ c, (piece ++ rest).head? = some c ∧ set.contains c.toNat = true ∧ front.length + 1 = j :=
      fun j => by rw [matches_set_iff, List.append_assoc, getElem?_length]
    rw [Row.succ_iff]
    simp only [hs]
    cases piece
    case nil =>
      refine iff_of_false ?_ (by simp)
      rintro ⟨_, ⟨_, _, _, rfl⟩, hr⟩
      exact Nat.not_succ_le_self _ (hr.le fun _ _ h => h.bounds.1)
    case cons c piece =>
      have h := @hi (front ++ [c]) piece
      rw [← List.append_cons, List.length_append, List.length_singleton] at h
      rw [List.length_cons, Nat.add_comm piece.length, ← Nat.add_assoc]
      constructor
      case mp =>
        rintro ⟨_, ⟨d, hd, hc, rfl⟩, hr⟩
        cases hd
        have ⟨hl, hp⟩ := h.mp hr
        exact ⟨by omega, List.forall_mem_cons.mpr ⟨hc, hp⟩⟩
      case mpr =>
        rintro ⟨hl, hp⟩
        have ⟨hc, hp⟩ := List.forall_mem_cons.mp hp
        exact ⟨_, ⟨c, rfl, hc, rfl⟩, h.mpr ⟨by omega, hp⟩⟩

theorem spans_repeat_set_iff {least : Nat} {most : Option Nat} {greedy : Bool} :
    Spans (.repeat (.set set) least most greedy) front piece rest ↔
      least ≤ piece.length ∧ (∀ m, most = some m → piece.length ≤ m) ∧
        ∀ c ∈ piece, set.contains c.toNat = true := by
  rw [Spans, matches_repeat_iff]
  simp only [row_set_iff]
  grind

theorem spans_optional_iff {greedy : Bool} :
    Spans (.repeat r 0 (some 1) greedy) front piece rest ↔
      piece = [] ∨ r.Spans front piece rest := by
  rw [Spans, matches_repeat_iff, Spans]
  constructor
  case mp =>
    rintro ⟨n, _, hn, hr⟩
    have := hn 1 rfl
    rcases Nat.le_one_iff_eq_zero_or_eq_one.mp this with rfl | rfl
    case inl => exact .inl (by simpa using Row.zero_iff.mp hr)
    case inr => exact .inr (Row.one_iff.mp hr)
  case mpr =>
    rintro (rfl | hs)
    case inl => exact ⟨0, Nat.le_refl _, by omega, .nil⟩
    case inr => exact ⟨1, Nat.zero_le _, by simp, Row.one_iff.mpr hs⟩

-- Every match is a piece of the text, unless it begins behind the end.
theorem Matches.exists_spans {text : List Char} {i j : Nat} (hm : Matches text.toArray r i j)
    (hi : i ≤ text.length) :
    ∃ front piece rest, text = front ++ piece ++ rest ∧ front.length = i ∧
      front.length + piece.length = j ∧ r.Spans front piece rest := by
  have hb := hm.bounds
  rw [List.size_toArray] at hb
  obtain ⟨front, behind, rfl, rfl⟩ := exists_cut hi
  rw [List.length_append] at hb hi
  obtain ⟨piece, rest, rfl, hp⟩ := exists_cut (by omega : j - front.length ≤ behind.length)
  obtain rfl : j = front.length + piece.length := by omega
  exact ⟨front, piece, rest, by simp, rfl, rfl, by simpa only [Spans, List.append_assoc] using hm⟩

theorem isMatch_iff_spans (hr : r.IsProper) {text : List Char} :
    r.isMatch text = true ↔
      ∃ front piece rest, text = front ++ piece ++ rest ∧ r.Spans front piece rest := by
  rw [isMatch_iff hr]
  constructor
  case mp =>
    rintro ⟨i, hi, k, hm⟩
    have ⟨front, piece, rest, ht, _, _, hs⟩ := hm.exists_spans hi
    exact ⟨front, piece, rest, ht, hs⟩
  case mpr =>
    rintro ⟨front, piece, rest, rfl, hs⟩
    exact ⟨front.length, by simp, _, hs⟩

end

end CourseAudit.Regex
