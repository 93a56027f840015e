import Mathlib.Data.List.Chain
import CourseAudit.Regex.CharSet
import CourseAudit.Text.Blank

/-!
What the tables of characters hold. Main statements: `RangeTable.Increasing.contains_iff` (a table
with its ranges in order holds what one of them holds), `isDigit_eq` and `isWord_of_isDigit`.
-/
namespace CourseAudit.Unicode
namespace RangeTable

-- Each range ends before the next one begins, and none of those is empty.
def Increasing (table : RangeTable) : Prop :=
  table.ranges.toList.Pairwise fun r s => r.2 < s.1 ∧ s.1 ≤ s.2

-- Neighbours are enough.
theorem increasing_of_isChain {table : RangeTable}
    (h : table.ranges.toList.IsChain fun r s => r.2 < s.1 ∧ s.1 ≤ s.2) : table.Increasing := by
  have : IsTrans (Nat × Nat) fun r s => r.2 < s.1 ∧ s.1 ≤ s.2 :=
    ⟨fun r s t hr hs => ⟨by omega, hs.2⟩⟩
  exact List.isChain_iff_pairwise.mp h

variable {table : RangeTable} {n : Nat}

theorem Increasing.lt_of_lt (h : table.Increasing) {i j : Nat} {r s : Nat × Nat}
    (hi : table.ranges[i]? = some r) (hj : table.ranges[j]? = some s) (hlt : i < j) :
    r.2 < s.1 ∧ s.1 ≤ s.2 := by
  obtain ⟨li, rfl⟩ := Array.getElem?_eq_some_iff.mp hi
  obtain ⟨lj, rfl⟩ := Array.getElem?_eq_some_iff.mp hj
  exact List.pairwise_iff_getElem.mp h i j li lj hlt

-- The place between the ranges that end before a code point and those that do not.
def IsBound (table : RangeTable) (n place : Nat) : Prop :=
  ∀ i r, table.ranges[i]? = some r → (r.2 < n ↔ i < place)

-- The bound stays between the two ends of the search.
theorem Increasing.isBound_search (h : table.Increasing) {low high : Nat} (hle : low ≤ high)
    (hs : high ≤ table.ranges.size) (hl : ∀ i r, table.ranges[i]? = some r → i < low → r.2 < n)
    (hh : ∀ i r, table.ranges[i]? = some r → high ≤ i → n ≤ r.2) :
    table.IsBound n (search table.ranges n low high) := by
  fun_induction search table.ranges n low high
  case case1 low high hlt middle hm =>
    have := Array.getElem?_eq_none_iff.mp hm
    omega
  case case2 low high hlt middle range hm hend hi =>
    refine hi (by omega) hs (fun i r hr hlt => ?_) hh
    rcases Nat.lt_succ_iff_lt_or_eq.mp hlt with hlt | rfl
    case inl =>
      have := h.lt_of_lt hr hm hlt
      omega
    case inr =>
      cases hm.symm.trans hr
      exact hend
  case case3 low high hlt middle range hm hend hi =>
    refine hi (by omega) (by omega) hl fun i r hr hle => ?_
    rcases Nat.eq_or_lt_of_le hle with rfl | hlt
    case inl =>
      cases hm.symm.trans hr
      exact Nat.not_lt.mp hend
    case inr =>
      have := h.lt_of_lt hm hr hlt
      omega
  case case4 low high hlt =>
    intro i r hr
    constructor
    case mp => exact fun hn => Nat.not_le.mp fun hle => Nat.not_lt.mpr (hh i r hr (by omega)) hn
    case mpr => exact hl i r hr

-- The only range that can hold a code point is the one at the bound.
theorem Increasing.contains_iff (h : table.Increasing) :
    table.contains n = true ↔ ∃ range ∈ table.ranges.toList, range.1 ≤ n ∧ n ≤ range.2 := by
  have hb : table.IsBound n (search table.ranges n 0 table.ranges.size) :=
    h.isBound_search (Nat.zero_le _) (Nat.le_refl _) (fun _ _ _ hlt => nomatch hlt)
      fun i r hr hle => by
        have := (Array.getElem?_eq_some_iff.mp hr).1
        omega
  constructor
  case mp =>
    intro hc
    have ⟨range, hm, hr⟩ := exists_range_of_contains hc
    exact ⟨range, Array.mem_toList_iff.mpr hm, hr⟩
  case mpr =>
    rintro ⟨range, hm, hr⟩
    obtain ⟨i, hi⟩ := List.mem_iff_getElem?.mp hm
    rw [Array.getElem?_toList] at hi
    have hge := mt (hb i range hi).mpr (by omega)
    rw [contains]
    split
    case h_1 first hf =>
      have hf' := mt (hb _ first hf).mp (Nat.lt_irrefl _)
      rcases Nat.eq_or_lt_of_le (Nat.not_lt.mp hge) with he | hlt
      case inl =>
        cases (he ▸ hf).symm.trans hi
        exact decide_eq_true hr
      case inr =>
        have := h.lt_of_lt hf hi hlt
        omega
    case h_2 hn =>
      have := Array.getElem?_eq_none_iff.mp hn
      have := (Array.getElem?_eq_some_iff.mp hi).1
      omega

theorem toNat_le_last (c : Char) : c.toNat ≤ last := by
  have h : c.toNat.isValidChar := c.valid
  rw [last]
  grind

-- A table whose text is given as its characters.
def ofChars (text : List Char) : RangeTable where
  ranges := ((Text.split ' ' (text.map fun c => if c = '\n' then ' ' else c)).filter
    (!·.isEmpty)).flatMap parseRange |>.toArray

theorem ofText_ofList (text : List Char) : ofText (String.ofList text) = ofChars text := by
  rw [ofText, String.toList_ofList]
  rfl

-- Whether each of some ranges lies in one of the others; both come in increasing order.
def covers : List (Nat × Nat) → List (Nat × Nat) → Bool
  | _, [] => true
  | [], _ => false
  | s :: ss, r :: rs => if s.1 ≤ r.1 ∧ r.2 ≤ s.2 then covers ss rs else covers ss (r :: rs)

theorem exists_of_covers {ss rs : List (Nat × Nat)} (h : covers ss rs = true) {r : Nat × Nat}
    (hr : r ∈ rs) : ∃ s ∈ ss, s.1 ≤ r.1 ∧ r.2 ≤ s.2 := by
  fun_induction covers ss rs <;> grind

end RangeTable

open RangeTable

-- The first range of the digits is that of the ASCII digits.
set_option maxRecDepth 100000 in
theorem digitTable_ranges :
    digitTable.ranges.toList.IsChain (fun r s => r.2 < s.1 ∧ s.1 ≤ s.2) ∧
    digitTable.ranges.toList.head? = some (0x30, 0x39) ∧
    ∀ range ∈ digitTable.ranges.toList.tail, 0x80 ≤ range.1 := by
  unfold digitTable
  rw [ofText_ofList]
  decide +kernel

-- All digits but those of ASCII are looked up in the table of word characters too. The code point
-- for what is no text is not there.
set_option maxRecDepth 100000 in
theorem wordTable_ranges :
    wordTable.ranges.toList.IsChain (fun r s => r.2 < s.1 ∧ s.1 ≤ s.2) ∧
    covers wordTable.ranges.toList digitTable.ranges.toList.tail = true ∧
    ∀ range ∈ wordTable.ranges.toList, 0xFFFD < range.1 ∨ range.2 < 0xFFFD := by
  unfold wordTable digitTable
  rw [ofText_ofList, ofText_ofList]
  decide +kernel

theorem isAsciiDigit_iff {c : Char} : isAsciiDigit c = true ↔ 0x30 ≤ c.toNat ∧ c.toNat ≤ 0x39 :=
  decide_eq_true_iff

theorem contains_digitTable_iff {n : Nat} :
    digitTable.contains n = true ↔
      (0x30 ≤ n ∧ n ≤ 0x39) ∨
        ∃ range ∈ digitTable.ranges.toList.tail, range.1 ≤ n ∧ n ≤ range.2 := by
  have ⟨hc, hh, _⟩ := digitTable_ranges
  rw [(increasing_of_isChain hc).contains_iff]
  obtain ⟨rest, hl⟩ := List.head?_eq_some_iff.mp hh
  rw [hl, List.exists_mem_cons_iff, List.tail_cons]

-- The ASCII digits are no exception.
theorem isDigit_eq (c : Char) : isDigit c = digitTable.contains c.toNat := by
  have ⟨_, _, ht⟩ := digitTable_ranges
  rw [isDigit]
  split
  case isTrue hlt =>
    rw [Bool.eq_iff_iff, isAsciiDigit_iff, contains_digitTable_iff]
    refine (or_iff_left ?_).symm
    rintro ⟨range, hr, hle, _⟩
    have := ht range hr
    omega
  case isFalse => rfl

theorem isWord_of_isDigit {c : Char} (h : isDigit c = true) : isWord c = true := by
  rw [isWord]
  split
  case isTrue hlt =>
    rw [isDigit, if_pos hlt] at h
    simp only [isAsciiWord, h, Bool.true_or]
  case isFalse hge =>
    rw [isDigit_eq, contains_digitTable_iff] at h
    have ⟨hc, hw, _⟩ := wordTable_ranges
    rcases h with h | ⟨range, hr, hn⟩
    case inl => omega
    case inr =>
      have ⟨wide, hm, hs⟩ := exists_of_covers hw hr
      exact (increasing_of_isChain hc).contains_iff.mpr ⟨wide, hm, by omega⟩

theorem isWord_replacement : isWord '\uFFFD' = false := by
  rw [isWord, if_neg (by decide), Bool.eq_false_iff]
  intro h
  have ⟨range, hm, hr⟩ := exists_range_of_contains h
  have hn := wordTable_ranges.2.2 range (Array.mem_toList_iff.mpr hm)
  change range.1 ≤ 0xFFFD ∧ 0xFFFD ≤ range.2 at hr
  omega

end CourseAudit.Unicode
