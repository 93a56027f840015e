import CourseAudit.Proofs.CodePoints
import CourseAudit.Unicode.Width

/-!
The columns that a text takes, in front of and behind a blank. No sequence reaches over a blank, so
the columns of both sides add up. A character can take a column away from the sequence it continues,
but only one that was counted before. Main statements: `measure_nonneg` and `width_append_blank`.
-/
namespace CourseAudit.Unicode

/-! ### Columns that can be taken away -/

-- The columns that the next character can take away from a sequence.
def Sequence.owed : Sequence → Int
  | .khmerLetter | .tifinaghJoiner | .joinedFlag | .joinedFlagsOdd => 1
  | _ => 0

variable {a : After} {before : Int}

namespace After

def owed (a : After) : Int :=
  a.sequence.owed

theorem owed_nonneg (a : After) : 0 ≤ a.owed := by
  obtain ⟨s, _⟩ := a
  cases s <;> simp [owed, Sequence.owed]

theorem owed_join (a : After) : { a with sequence := a.sequence.join }.owed = a.owed := by
  obtain ⟨s, _⟩ := a
  cases s <;> rfl

-- A selector keeps the sequence or ends it.
theorem owed_ite_le {p : Prop} [Decidable p] {kept ended : After} (hk : kept.owed = a.owed)
    (he : ended.owed = 0) : (if p then kept else ended).owed ≤ a.owed := by
  split
  case isTrue => exact Int.le_of_eq hk
  case isFalse => exact he ▸ a.owed_nonneg

theorem owed_selectEmoji (a : After) : a.selectEmoji.owed ≤ a.owed :=
  owed_ite_le rfl rfl

theorem owed_selectText (a : After) : a.selectText.owed ≤ a.owed :=
  owed_ite_le rfl rfl

theorem owed_selectWide (a : After) : a.selectWide.owed ≤ a.owed :=
  owed_ite_le rfl rfl

theorem owed_dropEmoji (a : After) : a.dropEmoji.owed ≤ a.owed :=
  owed_ite_le rfl rfl

theorem owed_dropText (a : After) : a.dropText.owed ≤ a.owed :=
  owed_ite_le rfl rfl

theorem owed_dropWide (a : After) : a.dropWide.owed ≤ a.owed :=
  owed_ite_le rfl rfl

end After

-- What a character adds to the columns covers what the next one can take away, if so many columns
-- can be taken away by this one.
def Pays (owed : Int) (counted : Int × After) : Prop :=
  counted.2.owed ≤ owed + counted.1

instance (owed : Int) (counted : Int × After) : Decidable (Pays owed counted) :=
  inferInstanceAs (Decidable (_ ≤ _))

namespace Pays

theorem mono {more : Int} {counted : Int × After} (h : Pays before counted) (hm : before ≤ more) :
    Pays more counted :=
  Int.le_trans h (Int.add_le_add_right hm _)

theorem zero {next : After} (h : next.owed ≤ before) : Pays before (0, next) :=
  Int.le_trans h (Int.le_of_eq (Int.add_zero _).symm)

theorem ended {next : After} (hn : next.owed = 0) (hb : 0 ≤ before) (columns : Nat) :
    Pays before (columns, next) := by
  rw [Pays, hn]
  exact Int.add_nonneg hb (Int.natCast_nonneg columns)

theorem ite {p : Prop} [Decidable p] {counted counted' : Int × After} (h : Pays before counted)
    (h' : Pays before counted') : Pays before (if p then counted else counted') := by
  split
  case isTrue => exact h
  case isFalse => exact h'

end Pays

theorem pays_loneWidth (n : Nat) : Pays 0 ((loneWidth n).1, (loneWidth n).2) := by
  have hi {p : Prop} [Decidable p] {alone alone' : Nat × After}
      (h : Pays 0 (alone.1, alone.2)) (h' : Pays 0 (alone'.1, alone'.2)) :
      Pays 0 ((if p then alone else alone').1, (if p then alone else alone').2) := by
    split
    case isTrue => exact h
    case isFalse => exact h'
  rw [loneWidth]
  repeat' apply hi
  all_goals decide

theorem pays_sequenceWidth (n : Nat) (s : Sequence) :
    ∀ p ∈ sequenceWidth n s, Pays s.owed (p.1, .of p.2) := by
  have hi {q : Prop} [Decidable q] {width width' : Option (Int × Sequence)} {s : Sequence}
      (h : ∀ p ∈ width, Pays s.owed (p.1, .of p.2))
      (h' : ∀ p ∈ width', Pays s.owed (p.1, .of p.2)) :
      ∀ p ∈ (if q then width else width'), Pays s.owed (p.1, .of p.2) := by
    split
    case isTrue => exact h
    case isFalse => exact h'
  rw [sequenceWidth.eq_def]
  split
  all_goals
    repeat' apply hi
    all_goals rintro p ⟨⟩
    all_goals simp [Pays, After.owed, After.of, Sequence.owed]

theorem pays_columnsBefore (n : Nat) (a : After) : Pays a.owed (columnsBefore n a) := by
  have hl : Pays a.owed ((loneWidth n).1, (loneWidth n).2) :=
    (pays_loneWidth n).mono a.owed_nonneg
  rw [columnsBefore]
  refine .ite hl (.ite (.zero a.owed_selectWide) (.ite (.zero a.owed_selectText)
    (.ite (.zero a.owed_selectEmoji) (.ite ?_ (.ite ?_ ?_)))))
  · exact .ended rfl a.owed_nonneg 1
  · exact .ended rfl a.owed_nonneg 2
  · generalize hb : (if a.asText then a.dropText else if a.asWide then a.dropWide else a) = b
    have hb : b.owed ≤ a.owed := by
      subst hb
      split
      case isTrue => exact a.owed_dropText
      case isFalse =>
        split
        case isTrue => exact a.owed_dropWide
        case isFalse => exact Int.le_refl _
    refine .ite (.zero (b.owed_join ▸ hb)) (.ite (.zero hb) (.ite hl ?_))
    split
    case h_1 width next hs =>
      exact (pays_sequenceWidth n b.sequence _ hs).mono hb
    case h_2 => exact hl

theorem pays_widthBefore (c : Char) (a : After) : Pays a.owed (widthBefore c a) := by
  rw [widthBefore]
  refine .ite ?_ ?_
  · split
    case isTrue => exact .ended rfl a.owed_nonneg 0
    case isFalse => exact .ended rfl a.owed_nonneg 2
  · generalize hb : (if a.asEmoji then a.dropEmoji else a) = b
    have hb : b.owed ≤ a.owed := by
      subst hb
      split
      case isTrue => exact a.owed_dropEmoji
      case isFalse => exact Int.le_refl _
    exact .ite (.ite (.ended rfl a.owed_nonneg 1) (.ite (.ended rfl a.owed_nonneg 0)
      (.ended rfl a.owed_nonneg 1))) ((pays_columnsBefore c.toNat b).mono hb)

/-! ### Texts -/

theorem measure_append (a : After) (front back : List Char) :
    measure a (front ++ back) =
      ((measure a back).1 + (measure (measure a back).2 front).1,
        (measure (measure a back).2 front).2) := by
  induction front
  case nil => simp [measure]
  case cons c front hi => simp [measure, hi, Int.add_assoc]

-- By induction on the text, from its end.
theorem pays_measure (text : List Char) (a : After) : Pays a.owed (measure a text) := by
  induction text
  case nil => exact .zero (Int.le_refl _)
  case cons c text hi =>
    have hc := pays_widthBefore c (measure a text).2
    simp only [Pays, measure] at hi hc ⊢
    omega

theorem measure_nonneg (text : List Char) : 0 ≤ (measure .nothing text).1 := by
  have ht := pays_measure text .nothing
  have ho := (measure .nothing text).2.owed_nonneg
  exact Int.le_trans ho (Int.le_trans ht (Int.le_of_eq (Int.zero_add _)))

-- Nothing in front of the number sign can be shown as an emoji.
set_option maxRecDepth 100000 in
theorem emojiBase_ranges :
    ∀ range ∈ WidthTable.emojiBase.ranges.toList, '#'.toNat ≤ range.1 := by
  unfold WidthTable.emojiBase
  rw [RangeTable.ofText_ofList]
  decide +kernel

theorem not_emojiBase_blank : WidthTable.emojiBase.contains ' '.toNat = false := by
  rw [Bool.eq_false_iff]
  intro h
  have ⟨range, hm, hle, _⟩ := RangeTable.exists_range_of_contains h
  exact absurd (Nat.le_trans (emojiBase_ranges range (Array.mem_toList_iff.mpr hm)) hle) (by decide)

-- A blank ends what stands behind it.
theorem widthBefore_blank (a : After) : widthBefore ' ' a = (1, .nothing) := by
  rw [widthBefore, if_neg fun h => Bool.noConfusion (not_emojiBase_blank.symm.trans h.2)]
  simp only [show ' '.toNat ≤ 0xA0 by decide, show (' ' = '\n') = False by decide,
    show (' ' = '\r') = False by decide, if_true, if_false, false_and]

theorem width_append_blank (front back : List Char) :
    width (front ++ ' ' :: back) = width front + 1 + width back := by
  have hf := measure_nonneg front
  have hb := measure_nonneg back
  have hm : measure .nothing (' ' :: back) = ((measure .nothing back).1 + 1, .nothing) := by
    rw [measure]
    simp only [widthBefore_blank]
  rw [width, measure_append, hm]
  simp only [width]
  omega

theorem width_of_ascii {text : List Char} (h : ∀ c ∈ text, ' ' ≤ c ∧ c ≤ '~') :
    width text = text.length := by
  rw [width, measure_of_ascii h, Int.toNat_natCast]

end CourseAudit.Unicode
