import Mathlib.Data.List.Sort
import CourseAudit.Text.Utf8

/-!
The order of texts is the order of their bytes. Main statements: `encodeString_lt_iff` and
`increasing_ext` (what comes in increasing order is told by its members).
-/
namespace CourseAudit.Text.Utf8

-- The first byte of the longest characters, and each byte after a first one.
theorem toNat_first (n : Nat) : (UInt8.ofNat (n % 8 + 240)).toNat = n % 8 + 240 := by
  rw [UInt8.toNat_ofNat']
  omega

theorem toNat_next (n : Nat) : (UInt8.ofNat (n % 64 + 128)).toNat = n % 64 + 128 := by
  rw [UInt8.toNat_ofNat']
  omega

-- Four bytes of the larger number, six bits in each but the first, come after those of the smaller
-- one.
theorem sixBits_lt {m n : Nat} (h : m < n) (hn : n < 0x110000) :
    m / 262144 % 8 < n / 262144 % 8 ∨ m / 262144 % 8 = n / 262144 % 8 ∧
      (m / 4096 % 64 < n / 4096 % 64 ∨ m / 4096 % 64 = n / 4096 % 64 ∧
        (m / 64 % 64 < n / 64 % 64 ∨ m / 64 % 64 = n / 64 % 64 ∧ m % 64 < n % 64)) := by
  have hm₃ : m / 262144 = m / 64 / 64 / 64 := by omega
  have hn₃ : n / 262144 = n / 64 / 64 / 64 := by omega
  have hm₂ : m / 4096 = m / 64 / 64 := by omega
  have hn₂ : n / 4096 = n / 64 / 64 := by omega
  rw [Nat.mod_eq_of_lt (by omega : m / 262144 < 8), Nat.mod_eq_of_lt (by omega : n / 262144 < 8)]
  rw [hm₃, hn₃, hm₂, hn₂]
  omega

-- Of two characters, the encoding of the smaller one is smaller, whatever follows.
theorem utf8EncodeChar_append_lt {c d : Char} (h : c < d) (xs ys : Bytes) :
    String.utf8EncodeChar c ++ xs < String.utf8EncodeChar d ++ ys := by
  have hn : c.val.toNat < d.val.toNat := h
  have hd : d.val.toNat < 0x110000 := by
    have := d.valid
    simp only [UInt32.isValidChar, Nat.isValidChar] at this
    omega
  have hlt := sixBits_lt hn hd
  simp only [String.utf8EncodeChar]
  repeat' split
  all_goals
    simp only [List.cons_append, List.nil_append, List.cons_lt_cons_iff, UInt8.lt_iff_toNat_lt,
      ← UInt8.toNat_inj, toNat_first, toNat_next, UInt8.toNat_ofNat']
    omega

theorem utf8EncodeChar_ne_nil (c : Char) : String.utf8EncodeChar c ≠ [] := by
  simp only [String.utf8EncodeChar]
  repeat' split
  all_goals nofun

-- By induction on why one list of characters is before the other.
theorem encode_lt {text text' : List Char} (h : text < text') : encode text < encode text' := by
  induction h
  case nil c rest =>
    obtain ⟨b, bs, hb⟩ := List.exists_cons_of_ne_nil (utf8EncodeChar_ne_nil c)
    simp [encode, hb]
  case rel h => exact utf8EncodeChar_append_lt h ..
  case cons hi => exact List.append_left_lt hi

-- Both orders are total, so the order that one keeps the other keeps as well.
theorem encode_lt_iff {text text' : List Char} : encode text < encode text' ↔ text < text' := by
  refine ⟨fun h => ?_, encode_lt⟩
  by_contra hn
  rcases List.le_iff_lt_or_eq.mp (List.not_lt.mp hn) with hlt | rfl
  · exact List.lt_asymm h (encode_lt hlt)
  · exact List.lt_irrefl _ h

theorem encodeString_lt_iff {a b : String} : encodeString a < encodeString b ↔ a < b :=
  encode_lt_iff

theorem encodeString_le_iff {a b : String} : encodeString a ≤ encodeString b ↔ a ≤ b := by
  rw [← List.not_lt, encodeString_lt_iff, String.not_lt]

end CourseAudit.Text.Utf8

namespace CourseAudit

-- Lists in increasing order are equal when they have the same members.
theorem increasing_ext {α : Type} (key : α → String) {items items' : List α}
    (hi : items.Pairwise (key · < key ·)) (hi' : items'.Pairwise (key · < key ·))
    (h : ∀ item, item ∈ items ↔ item ∈ items') : items = items' :=
  have : Std.Antisymm fun item item' : α => key item < key item' :=
    ⟨fun _ _ hlt hgt => (String.lt_asymm hlt hgt).elim⟩
  have : Std.Irrefl fun item item' : α => key item < key item' := ⟨fun _ => String.lt_irrefl _⟩
  hi.eq_of_mem_iff hi' h

end CourseAudit
