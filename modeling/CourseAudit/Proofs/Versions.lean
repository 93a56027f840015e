import CourseAudit.Proofs.Denotation
import CourseAudit.Proofs.Groups
import CourseAudit.Proofs.Lines
import CourseAudit.Tool.CompilerVersion

/-!
The major version of a compiler. It is the first longest run of digits in the first line that has a
point and another digit behind it, and it is what the group takes in the first match of the pattern
for version numbers. Main statements: `majorDigits?_eq_firstGroup?`, `parse?_eq_some_iff` and
`parse?_tells_major`.
-/
namespace CourseAudit

namespace CompilerVersion

open Regex Unicode

/-! ### Runs of digits -/

-- A run of digits that is as long as it can be.
structure IsRun (front run rest : List Char) : Prop where
  nonempty : run ≠ []
  digits   : ∀ c ∈ run, isDigit c = true
  starts   : front.getLast?.any isDigit = false
  ends     : rest.head?.any isDigit = false

-- The text begins with a point and a digit.
def StartsWithPoint (text : List Char) : Prop :=
  ∃ c more, text = '.' :: c :: more ∧ isDigit c = true

-- A run with a point and a digit right behind it.
structure IsMajor (front run rest : List Char) : Prop where
  run   : IsRun front run rest
  point : StartsWithPoint rest

-- The first such run of a line.
structure IsFirst (line front run rest : List Char) : Prop where
  here  : line = front ++ run ++ rest
  major : IsMajor front run rest
  least : ∀ front' run' rest', line = front' ++ run' ++ rest' → IsMajor front' run' rest' →
    front.length ≤ front'.length

variable {line text front run rest front' run' rest' : List Char} {c : Char}

theorem isDigit_point : isDigit '.' = false := by
  decide

theorem StartsWithPoint.head? (h : StartsWithPoint rest) : rest.head?.any isDigit = false := by
  obtain ⟨c, more, rfl, _⟩ := h
  exact isDigit_point

-- Two longest runs at one place are the same.
theorem eq_of_runs (h : ∀ c ∈ run, isDigit c = true) (hr : rest.head?.any isDigit = false)
    (h' : ∀ c ∈ run', isDigit c = true) (hr' : rest'.head?.any isDigit = false)
    (he : run ++ rest = run' ++ rest') : run = run' := by
  rw [← Text.takeWhile_append h hr, he, Text.takeWhile_append h' hr']

theorem IsFirst.unique (h : IsFirst line front run rest) (h' : IsFirst line front' run' rest') :
    run = run' := by
  have hl := Nat.le_antisymm (h.least _ _ _ h'.here h'.major) (h'.least _ _ _ h.here h.major)
  have he := h.here.symm.trans h'.here
  rw [List.append_assoc, List.append_assoc] at he
  exact eq_of_runs h.major.run.digits h.major.run.ends h'.major.run.digits h'.major.run.ends
    (List.append_inj he hl).2

/-! ### Scanning -/

theorem not_isMajor_of_digits (h : ∀ c ∈ line, isDigit c = true)
    (he : line = front ++ run ++ rest) : ¬IsMajor front run rest := by
  rintro ⟨_, c, more, rfl, _⟩
  exact absurd (h '.' (he ▸ by simp)) (by rw [isDigit_point]; decide)

theorem getLast?_append_cons_any (hc : isDigit c = false) (front : List Char) :
    (text ++ c :: front).getLast?.any isDigit = front.getLast?.any isDigit := by
  rw [List.getLast?_append, List.getLast?_cons]
  cases front.getLast? <;> simp [hc]

-- What is in front of a character that is no digit can be left away, unless it is the run itself.
theorem IsMajor.behind (hr : ∀ c ∈ run, isDigit c = true) (hc : isDigit c = false)
    (hn : ¬(run ≠ [] ∧ StartsWithPoint (c :: text)))
    (he : run ++ c :: text = front' ++ run' ++ rest') (h : IsMajor front' run' rest') :
    ∃ front, front' = run ++ c :: front ∧ text = front ++ run' ++ rest' ∧
      IsMajor front run' rest' := by
  -- No run begins with the character itself.
  have hnot : c :: text ≠ run' ++ rest' := by
    intro hl
    obtain ⟨d, more, rfl⟩ := List.exists_cons_of_ne_nil h.run.nonempty
    cases hl
    exact absurd (h.run.digits c List.mem_cons_self) (by simp [hc])
  rw [List.append_assoc] at he
  rcases List.append_eq_append_iff.mp he with ⟨gap, rfl, hg⟩ | ⟨shared, rfl, hs⟩
  case inl =>
    cases gap
    case nil => exact absurd hg hnot
    case cons d front =>
      cases hg
      have hs := h.run.starts
      rw [getLast?_append_cons_any hc] at hs
      exact ⟨front, rfl, by simp, ⟨h.run.nonempty, h.run.digits, hs, h.run.ends⟩, h.point⟩
  case inr =>
    rcases List.eq_nil_or_concat' front' with rfl | ⟨before, d, rfl⟩
    case inl =>
      rw [List.nil_append] at hr hn
      obtain rfl := eq_of_runs hr (by simpa using hc) h.run.digits h.run.ends hs.symm
      exact absurd ⟨h.run.nonempty, List.append_cancel_left hs ▸ h.point⟩ hn
    case inr =>
      have hs := h.run.starts
      rw [List.getLast?_concat, Option.any_some, hr d (by simp)] at hs
      cases hs

theorem IsMajor.append (hc : isDigit c = false) (h : IsMajor front run' rest') :
    IsMajor (run ++ c :: front) run' rest' where
  run   := ⟨h.run.nonempty, h.run.digits, (getLast?_append_cons_any hc front).trans h.run.starts,
    h.run.ends⟩
  point := h.point

theorem exists_isFirst_behind (hr : ∀ c ∈ run, isDigit c = true) (hc : isDigit c = false)
    (hn : ¬(run ≠ [] ∧ StartsWithPoint (c :: text))) :
    (∃ front rest, IsFirst (run ++ c :: text) front run' rest) ↔
      ∃ front rest, IsFirst text front run' rest := by
  constructor
  case mp =>
    rintro ⟨_, rest, he, hm, hl⟩
    obtain ⟨front, rfl, ht, hm⟩ := hm.behind hr hc hn he
    refine ⟨front, rest, ht, hm, fun front' run' rest' he' hm' => ?_⟩
    have := hl (run ++ c :: front') run' rest' (by simp [he']) (hm'.append hc)
    simpa using this
  case mpr =>
    rintro ⟨front, rest, rfl, hm, hl⟩
    refine ⟨run ++ c :: front, rest, by simp, hm.append hc, fun front' run' rest' he hm' => ?_⟩
    obtain ⟨front', rfl, he', hm'⟩ := hm'.behind hr hc hn he
    simpa using hl _ _ _ he' hm'

-- By induction on the text; the run holds the digits just passed.
theorem majorFrom_eq_some_iff (hr : ∀ c ∈ run, isDigit c = true) :
    majorFrom run text = some run' ↔ ∃ front rest, IsFirst (run ++ text) front run' rest := by
  induction text generalizing run
  case nil =>
    refine iff_of_false nofun ?_
    rintro ⟨front, rest, h⟩
    exact not_isMajor_of_digits (by simpa using hr) h.here h.major
  case cons c text hi =>
    have hp : (!run.isEmpty && decide (c = '.') && text.head?.any isDigit) = true ↔
        run ≠ [] ∧ StartsWithPoint (c :: text) := by
      cases text <;> simp [StartsWithPoint, and_assoc]
    rw [majorFrom]
    split
    case isTrue hc =>
      have hr' : ∀ d ∈ run ++ [c], isDigit d = true :=
        List.forall_mem_append.mpr ⟨hr, List.forall_mem_singleton.mpr hc⟩
      rw [hi hr', List.append_assoc, List.singleton_append]
    case isFalse hc =>
      split
      case isTrue hh =>
        have ⟨hne, hs⟩ := hp.mp hh
        have hf : IsFirst (run ++ c :: text) [] run (c :: text) :=
          ⟨rfl, ⟨⟨hne, hr, rfl, hs.head?⟩, hs⟩, fun _ _ _ _ _ => Nat.zero_le _⟩
        rw [Option.some_inj]
        constructor
        case mp => rintro rfl; exact ⟨_, _, hf⟩
        case mpr => rintro ⟨front, rest, h⟩; exact hf.unique h
      case isFalse hh =>
        rw [hi (List.forall_mem_nil _), List.nil_append,
          exists_isFirst_behind hr (Bool.eq_false_iff.mpr hc) (mt hp.mpr hh)]

theorem majorDigits?_eq_some_iff :
    majorDigits? line = some run ↔ ∃ front rest, IsFirst line front run rest :=
  majorFrom_eq_some_iff (List.forall_mem_nil _)

/-! ### The pattern -/

def pattern : String :=
  "(\\d+)\\.\\d+(?:\\.\\d+)?"

def major : Regex :=
  digits 1 none

-- The third number of a version, which can be missing.
def patch : Regex :=
  .seq (.literal ['.']) (digits 1 none)

-- What follows the major version.
def minor : Regex :=
  .seq (.literal ['.']) (.seq (digits 1 none) (.repeat patch 0 (some 1) true))

def expression : Regex :=
  .seq (.capture 1 major) minor

theorem repetition_patch :
    repetition (Regex.concat [patch]) 0 (some 1) true = .repeat patch 0 (some 1) true := by
  refine repetition_eq (r := patch) ?_ fun n hn => .inr (Option.some_inj.mp hn ▸ Nat.one_pos)
  have h : (digits 1 none).maxLength = none := maxLength_repeat_none
  change (do return (← (Regex.literal ['.']).maxLength) + (← (digits 1 none).maxLength)) ≠ some 0
  rw [h]
  nofun

set_option maxRecDepth 20000 in
theorem denotes_expression : Denotes pattern expression := by
  apply denotes_of
  · conv => lhs; cbv
  have hp := repetition_patch
  rw [patch] at hp
  simp only [Except.bind, Except.map, initial_eq, Ast.meaning, ClassAst.meaning, inPattern_usual,
    negateIf_usual, Bool.false_eq_true, if_false, shorthand_digit, ofSet_digitTable,
    swapGreed_usual, ok_bind, change_none, repetition_set_none, repeat_digitTable, hp]
  rfl

theorem spans_number_iff :
    (digits 1 none).Spans front text rest ↔ text ≠ [] ∧ ∀ c ∈ text, isDigit c = true := by
  rw [spans_digits_iff, Nat.succ_le_iff, List.length_pos_iff]
  exact ⟨fun h => ⟨h.1, h.2.2⟩, fun h => ⟨h.1, nofun, h.2⟩⟩

-- However the pattern goes on, it goes on behind a point and a digit.
theorem exists_spans_minor_iff :
    (∃ more after, rest = more ++ after ∧ minor.Spans front more after) ↔ StartsWithPoint rest := by
  simp only [minor, patch, spans_seq_iff, spans_literal_iff, spans_number_iff, spans_optional_iff]
  constructor
  case mp =>
    rintro ⟨_, after, rfl, _, _, rfl, rfl, number, more, rfl, ⟨hn, hd⟩, _⟩
    obtain ⟨c, number, rfl⟩ := List.exists_cons_of_ne_nil hn
    exact ⟨c, number ++ more ++ after, by simp, hd c List.mem_cons_self⟩
  case mpr =>
    rintro ⟨c, more, rfl, hc⟩
    exact ⟨['.', c], more, rfl, ['.'], [c], rfl, rfl, [c], [], rfl,
      ⟨List.cons_ne_nil c [], List.forall_mem_singleton.mpr hc⟩, .inl rfl⟩

theorem takes_iff :
    Takes major minor front run rest ↔
      (run ≠ [] ∧ ∀ c ∈ run, isDigit c = true) ∧ StartsWithPoint rest := by
  rw [Takes, exists_spans_minor_iff, major, spans_number_iff]

theorem determined (line : List Char) : Determined major minor line := by
  rintro front run rest run' rest' rfl he h h'
  have ⟨⟨_, hd⟩, hp⟩ := takes_iff.mp h
  have ⟨⟨_, hd'⟩, hp'⟩ := takes_iff.mp h'
  rw [List.append_assoc, List.append_assoc] at he
  exact eq_of_runs hd hp.head? hd' hp'.head? (List.append_cancel_left he)

-- What the group takes is the end of a longest run. By induction on what is in front of it, from
-- its end.
theorem exists_isMajor_of_takes (h : Takes major minor front run rest) :
    ∃ front' gap, front = front' ++ gap ∧ IsMajor front' (gap ++ run) rest := by
  have ⟨⟨hn, hd⟩, hp⟩ := takes_iff.mp h
  clear h
  induction front using List.reverseRecOn generalizing run
  case nil => exact ⟨[], [], rfl, ⟨hn, hd, rfl, hp.head?⟩, hp⟩
  case append_singleton front c hi =>
    cases hc : isDigit c
    case false =>
      exact ⟨front ++ [c], [], (List.append_nil _).symm, ⟨hn, hd, by simpa using hc, hp.head?⟩, hp⟩
    case true =>
      obtain ⟨front', gap, rfl, hm⟩ :=
        hi (List.cons_ne_nil c run) (List.forall_mem_cons.mpr ⟨hc, hd⟩)
      exact ⟨front', gap ++ [c], List.append_assoc .., by simpa using hm⟩

theorem IsMajor.takes (h : IsMajor front run rest) : Takes major minor front run rest :=
  takes_iff.mpr ⟨⟨h.run.nonempty, h.run.digits⟩, h.point⟩

-- What comes first for the pattern is a longest run.
theorem isFirst_iff :
    IsFirst line front run rest ↔
      line = front ++ run ++ rest ∧ Takes major minor front run rest ∧
        ∀ front' run' rest', line = front' ++ run' ++ rest' → Takes major minor front' run' rest' →
          front.length ≤ front'.length := by
  constructor
  case mp =>
    rintro ⟨he, hm, hl⟩
    refine ⟨he, hm.takes, fun front' run' rest' he' ht => ?_⟩
    obtain ⟨before, gap, rfl, hm'⟩ := exists_isMajor_of_takes ht
    have := hl before (gap ++ run') rest' (by simp [he']) hm'
    rw [List.length_append]
    omega
  case mpr =>
    rintro ⟨he, ht, hl⟩
    obtain ⟨before, gap, rfl, hm⟩ := exists_isMajor_of_takes ht
    have hle := hl before (gap ++ run) rest (by simp [he]) hm.takes
    obtain rfl : gap = [] := by simpa using hle
    rw [List.append_nil] at he hl ⊢
    exact ⟨he, hm, fun front' run' rest' he' hm' => hl front' run' rest' he' hm'.takes⟩

theorem majorDigits?_eq_firstGroup? (line : List Char) :
    majorDigits? line = firstGroup? line major minor := by
  have hp : (major.IsProper ∧ minor.IsProper) := by
    simp [major, minor, patch, Regex.digits, IsProper]
  ext1 run
  rw [majorDigits?_eq_some_iff, firstGroup?_eq_some_iff hp.1 hp.2 (determined line)]
  simp only [isFirst_iff]

/-! ### The first line -/

-- The carriage return of a line ending is no part of a number.
theorem majorFrom_concat_return (run text : List Char) :
    majorFrom run (text ++ ['\r']) = majorFrom run text := by
  induction text generalizing run
  case nil =>
    have hr : isDigit '\r' = false := by decide
    simp [majorFrom, hr]
  case cons c text hi =>
    have hh : (text ++ ['\r']).head?.any isDigit = text.head?.any isDigit := by
      cases text
      case nil => decide
      case cons => rfl
    simp only [List.cons_append, majorFrom, hi, hh]

theorem majorDigits?_dropReturn (line : List Char) :
    majorDigits? (Text.dropReturn line) = majorDigits? line := by
  rw [Text.dropReturn]
  split
  case h_1 h =>
    obtain ⟨text, rfl⟩ := List.getLast?_eq_some_iff.mp h
    rw [List.dropLast_concat]
    exact (majorFrom_concat_return [] text).symm
  case h_2 => rfl

theorem bind_head?_lines (text : List Char) :
    (Text.lines text).head?.bind majorDigits? = majorDigits? (Text.firstLine text) := by
  have hs := Text.head?_split '\n' text
  rw [← Text.firstLine] at hs
  rw [Text.lines]
  match hp : Text.split '\n' text with
  | [] => exact absurd hp (Text.split_ne_nil _ _)
  | [last] =>
    rw [hp, List.head?_cons, Option.some_inj] at hs
    rw [← hs, Text.endLines]
    split
    case isTrue he => rw [List.isEmpty_iff.mp he]; rfl
    case isFalse => rfl
  | line :: next :: rest =>
    rw [hp, List.head?_cons, Option.some_inj] at hs
    rw [← hs]
    exact majorDigits?_dropReturn line

/-! ### Numbers of 32 bits -/

theorem number?_eq_some_iff {digits : List Char} {n : UInt32} :
    number? digits = some n ↔
      (∀ c ∈ digits, isAsciiDigit c = true) ∧ Decimal.digitsValue digits = n.toNat := by
  rw [number?]
  constructor
  case mp =>
    intro h
    split at h
    case isFalse => cases h
    case isTrue hc =>
      rw [Bool.and_eq_true, List.all_eq_true, decide_eq_true_eq] at hc
      obtain rfl := Option.some_inj.mp h
      exact ⟨hc.1, (UInt32.toNat_ofNat_of_lt' hc.2).symm⟩
  case mpr =>
    rintro ⟨ha, hv⟩
    rw [if_pos, hv, UInt32.ofNat_toNat]
    rw [Bool.and_eq_true, List.all_eq_true, decide_eq_true_eq, hv]
    exact ⟨ha, n.toNat_lt⟩

theorem number?_eq_none_iff {digits : List Char} :
    number? digits = none ↔
      (∃ c ∈ digits, isAsciiDigit c = false) ∨ UInt32.size ≤ Decimal.digitsValue digits := by
  simp [number?, ← Bool.not_eq_true, imp_iff_not_or]

-- Products and sums that are missing where they would need more than 32 bits.
def times? (m n : UInt32) : Option UInt32 :=
  if m.toNat * n.toNat < UInt32.size then some (m * n) else none

def plus? (m n : UInt32) : Option UInt32 :=
  if m.toNat + n.toNat < UInt32.size then some (m + n) else none

-- What is left of a number that fits into a word is the number itself.
theorem mod_eq_toNat_iff {n : Nat} {k : UInt32} :
    n < UInt32.size ∧ n % 2 ^ 32 = k.toNat ↔ n = k.toNat := by
  constructor
  case mp => rintro ⟨hlt, hk⟩; exact (Nat.mod_eq_of_lt hlt).symm.trans hk
  case mpr =>
    intro hk
    have hlt := hk ▸ k.toNat_lt
    exact ⟨hlt, (Nat.mod_eq_of_lt hlt).trans hk⟩

theorem times?_eq_some_iff {m n k : UInt32} :
    times? m n = some k ↔ m.toNat * n.toNat = k.toNat := by
  rw [times?, Option.ite_none_right_eq_some, Option.some_inj, ← UInt32.toNat_inj,
    UInt32.toNat_mul, mod_eq_toNat_iff]

theorem plus?_eq_some_iff {m n k : UInt32} :
    plus? m n = some k ↔ m.toNat + n.toNat = k.toNat := by
  rw [plus?, Option.ite_none_right_eq_some, Option.some_inj, ← UInt32.toNat_inj,
    UInt32.toNat_add, mod_eq_toNat_iff]

def digit? (c : Char) : Option UInt32 :=
  if isAsciiDigit c then some (UInt32.ofNat (c.toNat - '0'.toNat)) else none

-- One digit more.
def extend? (n : UInt32) (c : Char) : Option UInt32 := do
  plus? (← times? n 10) (← digit? c)

-- Digits read one by one; nothing overflows on the way.
def readDigits? (digits : List Char) : Option UInt32 :=
  digits.foldlM extend? 0

-- What digits stand for behind the digits of a number.
def valueFrom (n : Nat) (digits : List Char) : Nat :=
  digits.foldl (fun n c => 10 * n + (c.toNat - '0'.toNat)) n

theorem le_valueFrom (n : Nat) (digits : List Char) : n ≤ valueFrom n digits := by
  induction digits generalizing n
  case nil => exact Nat.le_refl n
  case cons c digits hi =>
    have := hi (10 * n + (c.toNat - '0'.toNat))
    rw [valueFrom, List.foldl_cons, ← valueFrom]
    omega

theorem digit?_eq_some_iff {c : Char} {d : UInt32} :
    digit? c = some d ↔ isAsciiDigit c = true ∧ c.toNat - '0'.toNat = d.toNat := by
  rw [digit?, Option.ite_none_right_eq_some, Option.some_inj]
  refine and_congr_right fun hc => ?_
  have hlt : c.toNat - '0'.toNat < UInt32.size := by
    have := (isAsciiDigit_iff.mp hc).2
    exact Nat.lt_of_le_of_lt (Nat.sub_le ..) (Nat.lt_of_le_of_lt this (by decide))
  rw [← UInt32.toNat_inj, UInt32.toNat_ofNat_of_lt' hlt]

theorem extend?_eq_some_iff {n m : UInt32} {c : Char} :
    extend? n c = some m ↔
      isAsciiDigit c = true ∧ 10 * n.toNat + (c.toNat - '0'.toNat) = m.toNat := by
  simp only [extend?, Option.bind_eq_bind, Option.bind_eq_some_iff, times?_eq_some_iff,
    digit?_eq_some_iff, plus?_eq_some_iff]
  have ht : (10 : UInt32).toNat = 10 := rfl
  have hs : UInt32.size = 2 ^ 32 := rfl
  rw [ht]
  constructor
  case mp =>
    rintro ⟨k, hk, d, ⟨hc, hd⟩, hm⟩
    exact ⟨hc, by omega⟩
  case mpr =>
    rintro ⟨hc, hm⟩
    have := m.toNat_lt
    have hk := UInt32.toNat_ofNat_of_lt' (by omega : n.toNat * 10 < UInt32.size)
    have hd := UInt32.toNat_ofNat_of_lt' (by omega : c.toNat - '0'.toNat < UInt32.size)
    exact ⟨_, hk.symm, _, ⟨hc, hd.symm⟩, by omega⟩

-- By induction on the digits. A number that needs too much room at one digit needs no less behind
-- it.
theorem foldlM_extend?_eq_some_iff {n m : UInt32} {digits : List Char} :
    digits.foldlM extend? n = some m ↔
      (∀ c ∈ digits, isAsciiDigit c = true) ∧ valueFrom n.toNat digits = m.toNat := by
  induction digits generalizing n
  case nil => simp [valueFrom, UInt32.toNat_inj]
  case cons c digits hi =>
    rw [List.foldlM_cons, Option.bind_eq_bind, Option.bind_eq_some_iff]
    simp only [hi, extend?_eq_some_iff, List.forall_mem_cons]
    rw [valueFrom, List.foldl_cons, ← valueFrom]
    constructor
    case mp =>
      rintro ⟨k, ⟨hc, hk⟩, hd, hv⟩
      exact ⟨⟨hc, hd⟩, hk ▸ hv⟩
    case mpr =>
      rintro ⟨⟨hc, hd⟩, hv⟩
      have hk : 10 * n.toNat + (c.toNat - '0'.toNat) < UInt32.size :=
        Nat.lt_of_le_of_lt (hv ▸ le_valueFrom _ digits) m.toNat_lt
      have hk := UInt32.toNat_ofNat_of_lt' hk
      exact ⟨_, ⟨hc, hk.symm⟩, hd, hk.symm ▸ hv⟩

theorem readDigits?_eq_number? (digits : List Char) : readDigits? digits = number? digits := by
  ext1 n
  rw [readDigits?, foldlM_extend?_eq_some_iff, number?_eq_some_iff]
  rfl

/-! ### Versions -/

-- The digits of a line are looked for in the first one only.
theorem parse?_eq (output : String) :
    parse? output = (majorDigits? (Text.firstLine output.toList)).bind number? := by
  rw [← bind_head?_lines, Option.bind_assoc]
  rfl

theorem parse?_eq_some_iff {output : String} {m : UInt32} :
    parse? output = some m ↔
      ∃ front run rest, IsFirst (Text.firstLine output.toList) front run rest ∧
        (∀ c ∈ run, isAsciiDigit c = true) ∧ Decimal.digitsValue run = m.toNat := by
  rw [parse?_eq, Option.bind_eq_some_iff]
  simp only [majorDigits?_eq_some_iff, number?_eq_some_iff]
  grind

theorem firstLine_append {line : List Char} (h : '\n' ∉ line) (more : List Char) :
    Text.firstLine (line ++ '\n' :: more) = Text.firstLine line := by
  have hl : ∀ c ∈ line, decide (c ≠ '\n') = true :=
    fun c hc => decide_eq_true (ne_of_mem_of_not_mem hc h)
  rw [Text.firstLine, Text.firstLine, Text.takeWhile_append hl (by simp),
    List.takeWhile_eq_self_iff.mpr hl]

-- The first longest run of digits with a point and a digit behind it decides, whatever stands
-- behind it: a version is told just where its digits are those of ASCII and stand for a number of
-- 32 bits.
theorem parse?_tells_major :
    Denotes pattern (.seq (.capture 1 major) minor) ∧
    (∀ line, majorDigits? line = firstGroup? line major minor) ∧
    (∀ digits, number? digits = readDigits? digits) ∧
    (∀ line more : String, '\n' ∉ line.toList → parse? (line ++ "\n" ++ more) = parse? line) ∧
    (∀ output m, parse? output = some m ↔
      ∃ front run rest, IsFirst (Text.firstLine output.toList) front run rest ∧
        (∀ c ∈ run, isAsciiDigit c = true) ∧ Decimal.digitsValue run = m.toNat) ∧
    (∀ output, parse? output = none ↔
      ∀ front run rest, IsFirst (Text.firstLine output.toList) front run rest →
        (∃ c ∈ run, isAsciiDigit c = false) ∨ UInt32.size ≤ Decimal.digitsValue run) := by
  refine ⟨denotes_expression, majorDigits?_eq_firstGroup?,
    fun digits => (readDigits?_eq_number? digits).symm, fun line more hl => ?_,
    fun _ _ => parse?_eq_some_iff, fun output => ?_⟩
  case refine_1 =>
    rw [parse?_eq, parse?_eq, String.toList_append, String.toList_append, List.append_assoc]
    exact congrArg (fun text => (majorDigits? text).bind number?) (firstLine_append hl more.toList)
  case refine_2 =>
    rw [parse?_eq, Option.bind_eq_none_iff]
    simp only [majorDigits?_eq_some_iff, number?_eq_none_iff]
    grind

end CompilerVersion

namespace Sample

open CompilerVersion

-- A number that is too large hides the version behind it, and no other line is looked at.
theorem version_behind_large_number :
    '\n' ∉ "g++ (build 4294967296.1) 13.2.0".toList ∧
    parse? ("g++ 13.2.0" ++ "\n" ++ "Copyright 2023.1") = some 13 ∧
    parse? ("g++ (build 4294967296.1) 13.2.0" ++ "\n" ++ "version 13.2") = none := by
  have ⟨_, _, _, hl, _⟩ := parse?_tells_major
  have hm : parse? "g++ 13.2.0" = some 13 := by decide +kernel
  have hn : parse? "g++ (build 4294967296.1) 13.2.0" = none := by decide +kernel
  exact ⟨by decide +kernel, (hl _ _ (by decide +kernel)).trans hm,
    (hl _ _ (by decide +kernel)).trans hn⟩

end Sample
end CourseAudit
