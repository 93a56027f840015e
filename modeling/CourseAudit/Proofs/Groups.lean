import CourseAudit.Proofs.Scans

/-!
What a group takes in the first match of a text, when an expression begins with the group. The first
match begins as far to the left as one can, and from there the group takes what it prefers among all
that the rest of the expression can follow. Main statements: `head?_ends_capture` (the group ends
where the first match goes by) and `firstGroup?_eq_some_iff`.
-/
namespace CourseAudit.Regex

-- Where the group ends in the first match from a place.
def groupEnd? (text : Array Char) (group rest : Regex) (i : Nat) : Option Nat :=
  (ends text group i).find? fun j => !(ends text rest j).isEmpty

-- What the group takes in the first match.
def firstGroup? (text : List Char) (group rest : Regex) : Option (List Char) :=
  (List.range (text.length + 1)).findSome? fun i =>
    (groupEnd? text.toArray group rest i).map fun j => (text.drop i).take (j - i)

section

variable {text : Array Char} {group rest : Regex} {i j : Nat}

-- The first match of the whole expression goes by the end of the group.
theorem head?_ends_capture (index : Nat) :
    (ends text (.seq (.capture index group) rest) i).head? =
      (groupEnd? text group rest i).bind fun j => (ends text rest j).head? := by
  rw [ends, ends, groupEnd?]
  induction ends text group i
  case nil => rfl
  case cons j places hi =>
    rw [List.flatMap_cons, List.head?_append, List.find?_cons, hi]
    cases he : ends text rest j <;> simp [he]

theorem groupEnd?_eq_none_iff (hg : group.IsProper) (hr : rest.IsProper) :
    groupEnd? text group rest i = none ↔
      ∀ j k, Matches text group i j → ¬Matches text rest j k := by
  rw [groupEnd?, List.find?_eq_none]
  simp only [Bool.not_eq_true', Bool.not_eq_false, List.isEmpty_iff, List.eq_nil_iff_forall_not_mem,
    mem_ends hg, mem_ends hr]
  exact ⟨fun h j k hj => h j hj k, fun h j hj k => h j k hj⟩

theorem of_groupEnd? (hg : group.IsProper) (hr : rest.IsProper)
    (h : groupEnd? text group rest i = some j) :
    Matches text group i j ∧ ∃ k, Matches text rest j k := by
  have hm := (mem_ends hg).mp (List.mem_of_find?_eq_some h)
  have hs := List.find?_some h
  obtain ⟨k, hk⟩ := List.exists_mem_of_ne_nil _ (by simpa using hs)
  exact ⟨hm, k, (mem_ends hr).mp hk⟩

-- The first place at which there is something.
theorem findSome?_range_eq_some_iff {α : Type} {f : Nat → Option α} {n : Nat} {a : α} :
    (List.range n).findSome? f = some a ↔ ∃ i < n, f i = some a ∧ ∀ j < i, f j = none := by
  induction n
  case zero => simp
  case succ n hi =>
    rw [List.range_succ, List.findSome?_append, Option.or_eq_some_iff, hi,
      List.findSome?_eq_none_iff]
    simp only [List.mem_range, List.findSome?_singleton]
    constructor
    case mp =>
      rintro (⟨i, hn, h⟩ | ⟨hn, h⟩)
      case inl => exact ⟨i, Nat.lt_succ_of_lt hn, h⟩
      case inr => exact ⟨n, Nat.lt_succ_self n, h, hn⟩
    case mpr =>
      rintro ⟨i, hn, h, hl⟩
      rcases Nat.lt_succ_iff_lt_or_eq.mp hn with hn | rfl
      case inl => exact .inl ⟨i, hn, h, hl⟩
      case inr => exact .inr ⟨hl, h⟩

end

-- The group can take a piece of a text: the rest of the expression matches right behind it.
def Takes (group rest : Regex) (front piece behind : List Char) : Prop :=
  group.Spans front piece behind ∧
    ∃ more after, behind = more ++ after ∧ rest.Spans (front ++ piece) more after

section

variable {text front piece behind : List Char} {group rest : Regex} {i j k : Nat}

theorem Takes.matches (h : Takes group rest front piece behind) :
    Matches (front ++ piece ++ behind).toArray group front.length (front.length + piece.length) ∧
      ∃ k, Matches (front ++ piece ++ behind).toArray rest (front.length + piece.length) k := by
  obtain ⟨hg, more, after, rfl, hr⟩ := h
  rw [Spans, List.length_append, List.append_assoc] at hr
  exact ⟨hg, _, hr⟩

theorem exists_takes (hm : Matches text.toArray group i j) (hr : Matches text.toArray rest j k)
    (hi : i ≤ text.length) :
    ∃ front piece behind, text = front ++ piece ++ behind ∧ front.length = i ∧
      front.length + piece.length = j ∧ Takes group rest front piece behind := by
  obtain ⟨front, piece, behind, rfl, rfl, rfl, hs⟩ := hm.exists_spans hi
  obtain ⟨before, more, after, he, hl, _, hs'⟩ := hr.exists_spans (by simp)
  rw [List.append_assoc before] at he
  obtain ⟨rfl, rfl⟩ := List.append_inj he (by rw [hl, List.length_append])
  exact ⟨front, piece, _, rfl, rfl, rfl, hs, more, after, rfl, hs'⟩

-- From each place, the group can take one piece only.
def Determined (group rest : Regex) (text : List Char) : Prop :=
  ∀ front piece behind piece' behind', text = front ++ piece ++ behind →
    text = front ++ piece' ++ behind' → Takes group rest front piece behind →
    Takes group rest front piece' behind' → piece = piece'

-- Where nothing is left to prefer, the group of the first match is found by its place alone.
theorem firstGroup?_eq_some_iff (hg : group.IsProper) (hr : rest.IsProper)
    (hd : Determined group rest text) :
    firstGroup? text group rest = some piece ↔
      ∃ front behind, text = front ++ piece ++ behind ∧ Takes group rest front piece behind ∧
        ∀ front' piece' behind', text = front' ++ piece' ++ behind' →
          Takes group rest front' piece' behind' → front.length ≤ front'.length := by
  rw [firstGroup?, findSome?_range_eq_some_iff]
  simp only [Option.map_eq_some_iff, Option.map_eq_none_iff, Nat.lt_succ_iff,
    groupEnd?_eq_none_iff hg hr]
  constructor
  case mp =>
    rintro ⟨i, hi, ⟨j, hj, rfl⟩, hl⟩
    obtain ⟨hm, k, hk⟩ := of_groupEnd? hg hr hj
    obtain ⟨front, piece, behind, rfl, rfl, rfl, ht⟩ := exists_takes hm hk hi
    refine ⟨front, behind, by simp, by simpa using ht, fun front' piece' behind' he ht' => ?_⟩
    refine Nat.le_of_not_lt fun hlt => ?_
    obtain ⟨hm', k', hk'⟩ := ht'.matches
    rw [← he] at hm' hk'
    exact hl _ hlt _ k' hm' hk'
  case mpr =>
    rintro ⟨front, behind, rfl, ht, hl⟩
    have ⟨hm, k, hk⟩ := ht.matches
    refine ⟨front.length, by simp, ?_, fun j hj k k' hm' hk' => ?_⟩
    case refine_1 =>
      cases hj : groupEnd? (front ++ piece ++ behind).toArray group rest front.length
      case none => exact absurd hk ((groupEnd?_eq_none_iff hg hr).mp hj _ k hm)
      case some j =>
        obtain ⟨hm', k', hk'⟩ := of_groupEnd? hg hr hj
        obtain ⟨front', piece', behind', he, hf, rfl, ht'⟩ := exists_takes hm' hk' (by simp)
        have hf' : front = front' := by
          rw [List.append_assoc, List.append_assoc] at he
          exact (List.append_inj he hf.symm).1
        subst hf'
        obtain rfl := hd front piece behind piece' behind' rfl he ht ht'
        exact ⟨_, rfl, by simp⟩
    case refine_2 =>
      obtain ⟨front', piece', behind', he, rfl, _, ht'⟩ :=
        exists_takes hm' hk' (Nat.le_of_lt (Nat.lt_of_lt_of_le hj (by simp)))
      exact Nat.not_le_of_lt hj (hl front' piece' behind' he ht')

end

end CourseAudit.Regex
