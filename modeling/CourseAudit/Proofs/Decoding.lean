import CourseAudit.Proofs.ByteOrder

/-!
Reading UTF-8 where not all bytes are text. Main statements: `decodeLossy_around` (bytes that never
occur in UTF-8 become replacement characters, and the texts around them are read as they are) and
`infix_decodeLossy` (a text is read wherever it stands among bytes).
-/
namespace CourseAudit.Text.Utf8

theorem utf8EncodeChar_eq (c : Char) : String.utf8EncodeChar c =
    if c.toNat ≤ 0x7F then [UInt8.ofNat c.toNat]
    else if c.toNat ≤ 0x7FF then
      [UInt8.ofNat (c.toNat / 64 % 32 + 0xC0), UInt8.ofNat (c.toNat % 64 + 0x80)]
    else if c.toNat ≤ 0xFFFF then
      [UInt8.ofNat (c.toNat / 4096 % 16 + 0xE0), UInt8.ofNat (c.toNat / 64 % 64 + 0x80),
        UInt8.ofNat (c.toNat % 64 + 0x80)]
    else
      [UInt8.ofNat (c.toNat / 262144 % 8 + 0xF0), UInt8.ofNat (c.toNat / 4096 % 64 + 0x80),
        UInt8.ofNat (c.toNat / 64 % 64 + 0x80), UInt8.ofNat (c.toNat % 64 + 0x80)] :=
  rfl

section

variable {n more value : Nat} {low high b : UInt8} {rest : Bytes}

theorem toNat_ofNat_of_lt (h : n < 256) : (UInt8.ofNat n).toNat = n := by
  rw [UInt8.toNat_ofNat']
  exact Nat.mod_eq_of_lt h

theorem between_bounds (hl : low.toNat ≤ n % 64 + 0x80) (hh : n % 64 + 0x80 ≤ high.toNat) :
    low ≤ UInt8.ofNat (n % 64 + 0x80) ∧ UInt8.ofNat (n % 64 + 0x80) ≤ high := by
  rw [UInt8.le_iff_toNat_le, UInt8.le_iff_toNat_le, toNat_next]
  exact ⟨hl, hh⟩

-- What a byte between the bounds does inside a character.
theorem lossyFrom_inside_zero (hl : low.toNat ≤ n % 64 + 0x80) (hh : n % 64 + 0x80 ≤ high.toNat) :
    lossyFrom (.inside low high 0 value) (UInt8.ofNat (n % 64 + 0x80) :: rest) =
      Char.ofNat (value * 64 + n % 64) :: lossyFrom .start rest := by
  rw [lossyFrom, step, if_pos (between_bounds hl hh), toNat_next, Nat.add_sub_cancel]

theorem lossyFrom_inside_succ (hl : low.toNat ≤ n % 64 + 0x80) (hh : n % 64 + 0x80 ≤ high.toNat) :
    lossyFrom (.inside low high (more + 1) value) (UInt8.ofNat (n % 64 + 0x80) :: rest) =
      lossyFrom (.inside 0x80 0xBF more (value * 64 + n % 64)) rest := by
  rw [lossyFrom, step, if_pos (between_bounds hl hh), toNat_next, Nat.add_sub_cancel]

theorem lossyFrom_start_begins {state : State} (h : lead b = .begins state) :
    lossyFrom .start (b :: rest) = lossyFrom state rest := by
  rw [lossyFrom, h]

theorem lead_ascii (h : n < 0x80) : lead (UInt8.ofNat n) = .whole (Char.ofNat n) := by
  rw [lead, toNat_ofNat_of_lt (by omega), if_pos h]

theorem lead_two (h : 2 ≤ n) (hn : n < 32) :
    lead (UInt8.ofNat (n + 0xC0)) = .begins (.inside 0x80 0xBF 0 n) := by
  rw [lead, toNat_ofNat_of_lt (by omega), if_neg (by omega), if_neg (by omega), if_pos (by omega),
    Nat.add_sub_cancel]

-- The second of three bytes is bounded so that there are no longer forms and no surrogates.
theorem exists_lead_three (hn : n < 0x10000) (h : 0x800 ≤ n) (hs : n < 0xD800 ∨ 0xE000 ≤ n) :
    ∃ low high, lead (UInt8.ofNat (n / 4096 % 16 + 0xE0)) =
        .begins (.inside low high 1 (n / 4096)) ∧
      low.toNat ≤ n / 64 % 64 + 0x80 ∧ n / 64 % 64 + 0x80 ≤ high.toNat := by
  rw [Nat.mod_eq_of_lt (by omega : n / 4096 < 16), lead, toNat_ofNat_of_lt (by omega),
    if_neg (by omega), if_neg (by omega), if_neg (by omega)]
  by_cases h0 : n / 4096 = 0
  case pos =>
    rw [h0]
    exact ⟨0xA0, 0xBF, rfl, by simp; omega, by simp; omega⟩
  case neg =>
    rw [if_neg (by omega)]
    by_cases hd : n / 4096 = 0xD
    case pos =>
      rw [hd]
      exact ⟨0x80, 0x9F, rfl, by simp, by simp; omega⟩
    case neg =>
      rw [if_neg (by omega), if_pos (by omega), Nat.add_sub_cancel]
      exact ⟨0x80, 0xBF, rfl, by simp, by simp; omega⟩

theorem exists_lead_four (hn : n < 0x110000) (h : 0x10000 ≤ n) :
    ∃ low high, lead (UInt8.ofNat (n / 262144 % 8 + 0xF0)) =
        .begins (.inside low high 2 (n / 262144)) ∧
      low.toNat ≤ n / 4096 % 64 + 0x80 ∧ n / 4096 % 64 + 0x80 ≤ high.toNat := by
  rw [Nat.mod_eq_of_lt (by omega : n / 262144 < 8), lead, toNat_ofNat_of_lt (by omega),
    if_neg (by omega), if_neg (by omega), if_neg (by omega), if_neg (by omega), if_neg (by omega),
    if_neg (by omega)]
  by_cases h0 : n / 262144 = 0
  case pos =>
    rw [h0]
    exact ⟨0x90, 0xBF, rfl, by simp; omega, by simp; omega⟩
  case neg =>
    rw [if_neg (by omega)]
    by_cases hd : n / 262144 = 4
    case pos =>
      rw [hd]
      exact ⟨0x80, 0x8F, rfl, by simp, by simp; omega⟩
    case neg =>
      rw [if_pos (by omega), Nat.add_sub_cancel]
      exact ⟨0x80, 0xBF, rfl, by simp, by simp; omega⟩

end

-- A character is read back, one case for each number of bytes.
theorem lossyFrom_utf8EncodeChar (c : Char) (rest : Bytes) :
    lossyFrom .start (String.utf8EncodeChar c ++ rest) = c :: lossyFrom .start rest := by
  have hv : c.toNat < 0xD800 ∨ 0xE000 ≤ c.toNat ∧ c.toNat < 0x110000 := by
    have h : c.toNat.isValidChar := c.valid
    simp only [Nat.isValidChar] at h
    omega
  have hc : Char.ofNat c.toNat = c := Char.ofNat_toNat c
  -- The bounds of a byte that follows the second one.
  have hl (n : Nat) : (0x80 : UInt8).toNat ≤ n % 64 + 0x80 := Nat.le_add_left ..
  have hh (n : Nat) : n % 64 + 0x80 ≤ (0xBF : UInt8).toNat := by
    change n % 64 + 0x80 ≤ 0xBF
    omega
  rw [utf8EncodeChar_eq]
  split
  case isTrue => rw [List.singleton_append, lossyFrom, lead_ascii (by omega), hc]
  case isFalse =>
    split
    case isTrue =>
      rw [Nat.mod_eq_of_lt (by omega : c.toNat / 64 < 32), List.cons_append, List.singleton_append,
        lossyFrom_start_begins (lead_two (by omega) (by omega)),
        lossyFrom_inside_zero (hl _) (hh _), Nat.div_add_mod', hc]
    case isFalse =>
      split
      case isTrue h =>
        obtain ⟨low, high, hf, hlow, hhigh⟩ :=
          exists_lead_three (Nat.lt_succ_of_le h) (by omega) (by omega)
        have hn : (c.toNat / 4096 * 64 + c.toNat / 64 % 64) * 64 + c.toNat % 64 = c.toNat := by
          omega
        rw [List.cons_append, List.cons_append, List.singleton_append, lossyFrom_start_begins hf,
          lossyFrom_inside_succ hlow hhigh, lossyFrom_inside_zero (hl _) (hh _), hn, hc]
      case isFalse h =>
        obtain ⟨low, high, hf, hlow, hhigh⟩ := exists_lead_four (by omega) (Nat.lt_of_not_le h)
        have hn : ((c.toNat / 262144 * 64 + c.toNat / 4096 % 64) * 64 + c.toNat / 64 % 64) * 64 +
            c.toNat % 64 = c.toNat := by omega
        rw [List.cons_append, List.cons_append, List.cons_append, List.singleton_append,
          lossyFrom_start_begins hf, lossyFrom_inside_succ hlow hhigh,
          lossyFrom_inside_succ (hl _) (hh _), lossyFrom_inside_zero (hl _) (hh _), hn, hc]

theorem lossyFrom_encode (text : List Char) (rest : Bytes) :
    lossyFrom .start (encode text ++ rest) = text ++ lossyFrom .start rest := by
  induction text
  case nil => rfl
  case cons c text hi =>
    rw [encode, List.flatMap_cons, List.append_assoc, lossyFrom_utf8EncodeChar, ← encode, hi]
    rfl

theorem decodeLossy_encode (text : List Char) : decodeLossy (encode text) = text := by
  have h := lossyFrom_encode text []
  rwa [List.append_nil, lossyFrom, List.append_nil] at h

-- The bytes that occur in no text.
def NeverOccurs (b : UInt8) : Prop :=
  b = 0xC0 ∨ b = 0xC1 ∨ 0xF5 ≤ b

theorem lead_of_neverOccurs {b : UInt8} (h : NeverOccurs b) : lead b = .stray := by
  have hn : b.toNat = 0xC0 ∨ b.toNat = 0xC1 ∨ 0xF5 ≤ b.toNat := by
    simp only [NeverOccurs, ← UInt8.toNat_inj, UInt8.le_iff_toNat_le] at h
    exact h
  rw [lead]
  grind

theorem lossyFrom_stray {stray : Bytes} (h : ∀ b ∈ stray, NeverOccurs b) (rest : Bytes) :
    lossyFrom .start (stray ++ rest) =
      List.replicate stray.length replacement ++ lossyFrom .start rest := by
  induction stray
  case nil => rfl
  case cons b stray hi =>
    have ⟨hb, hs⟩ := List.forall_mem_cons.mp h
    rw [List.cons_append, lossyFrom, lead_of_neverOccurs hb, hi hs]
    rfl

-- Each such byte becomes a replacement character.
theorem decodeLossy_around (front behind : List Char) {stray : Bytes}
    (h : ∀ b ∈ stray, NeverOccurs b) :
    decodeLossy (encode front ++ stray ++ encode behind) =
      front ++ List.replicate stray.length replacement ++ behind := by
  have hb : lossyFrom .start (encode behind) = behind := decodeLossy_encode behind
  rw [decodeLossy, List.append_assoc, lossyFrom_encode, lossyFrom_stray h, hb, List.append_assoc]

/-! ### Texts among other bytes -/

-- Inside a character no byte is expected that begins one.
def State.IsBounded : State → Prop
  | .start => True
  | .inside low high _ _ => 0x80 ≤ low ∧ high ≤ 0xBF

theorem isBounded_of_lead {b : UInt8} {state : State} (h : lead b = .begins state) :
    state.IsBounded := by
  rw [lead] at h
  grind [State.IsBounded]

theorem isBounded_of_step {low high b : UInt8} {more value : Nat} {c : Option Char} {state : State}
    (h : step low high more value b = some (c, state)) : state.IsBounded := by
  rw [step] at h
  split at h
  case isTrue =>
    cases more <;> cases h
    case zero => trivial
    case succ => exact ⟨UInt8.le_refl _, UInt8.le_refl _⟩
  case isFalse => cases h

-- A byte that does not belong inside a character is read as if nothing was before it.
theorem lossyFrom_inside_of_none {low high b : UInt8} {more value : Nat}
    (h : step low high more value b = none) (rest : Bytes) :
    lossyFrom (.inside low high more value) (b :: rest) =
      replacement :: lossyFrom .start (b :: rest) := by
  simp only [lossyFrom, h]

-- What is read of the front of a byte string does not depend on the rest.
theorem exists_lossyFrom_append (bytes : Bytes) {state : State} (hs : state.IsBounded) :
    ∃ front next, next.IsBounded ∧
      ∀ rest, lossyFrom state (bytes ++ rest) = front ++ lossyFrom next rest := by
  induction bytes generalizing state
  case nil => exact ⟨[], state, hs, fun _ => rfl⟩
  case cons b bytes hi =>
    have hb : ∃ front next, next.IsBounded ∧
        ∀ rest, lossyFrom .start (b :: (bytes ++ rest)) = front ++ lossyFrom next rest := by
      rcases hl : lead b with c | state | _
      case whole =>
        obtain ⟨front, next, hn, hf⟩ := @hi .start trivial
        exact ⟨c :: front, next, hn, fun rest => by rw [lossyFrom, hl, hf, List.cons_append]⟩
      case begins =>
        obtain ⟨front, next, hn, hf⟩ := hi (isBounded_of_lead hl)
        exact ⟨front, next, hn, fun rest => by rw [lossyFrom, hl, ← hf]⟩
      case stray =>
        obtain ⟨front, next, hn, hf⟩ := @hi .start trivial
        refine ⟨replacement :: front, next, hn, fun rest => ?_⟩
        rw [lossyFrom, hl, hf, List.cons_append]
    cases state
    case start => exact hb
    case inside low high more value =>
      rcases ht : step low high more value b with _ | ⟨_ | c, state⟩
      case none =>
        obtain ⟨front, next, hn, hf⟩ := hb
        refine ⟨replacement :: front, next, hn, fun rest => ?_⟩
        rw [List.cons_append, lossyFrom_inside_of_none ht, hf, List.cons_append]
      case some.none =>
        obtain ⟨front, next, hn, hf⟩ := hi (isBounded_of_step ht)
        refine ⟨front, next, hn, fun rest => ?_⟩
        rw [List.cons_append, lossyFrom, ht, ← hf]
      case some.some =>
        obtain ⟨front, next, hn, hf⟩ := hi (isBounded_of_step ht)
        refine ⟨c :: front, next, hn, fun rest => ?_⟩
        rw [List.cons_append, lossyFrom, ht, List.cons_append, ← hf]

theorem exists_utf8EncodeChar_eq_cons (c : Char) :
    ∃ b rest, String.utf8EncodeChar c = b :: rest ∧ (b < 0x80 ∨ 0xC0 ≤ b) := by
  have hb (n : Nat) (h : 0xC0 ≤ n) (hn : n < 256) : (0xC0 : UInt8) ≤ UInt8.ofNat n := by
    rw [UInt8.le_iff_toNat_le, toNat_ofNat_of_lt hn]
    exact h
  rw [utf8EncodeChar_eq]
  split
  case isTrue h =>
    refine ⟨_, _, rfl, .inl ?_⟩
    rw [UInt8.lt_iff_toNat_lt, toNat_ofNat_of_lt (by omega)]
    exact Nat.lt_succ_of_le h
  case isFalse =>
    split
    case isTrue => exact ⟨_, _, rfl, .inr <| hb _ (by omega) (by omega)⟩
    case isFalse =>
      split
      case isTrue => exact ⟨_, _, rfl, .inr <| hb _ (by omega) (by omega)⟩
      case isFalse => exact ⟨_, _, rfl, .inr <| hb _ (by omega) (by omega)⟩

-- Where a character begins, none goes on.
theorem exists_lossyFrom_encode {state : State} (hs : state.IsBounded) {text : List Char}
    (ht : text ≠ []) (rest : Bytes) :
    ∃ front, lossyFrom state (encode text ++ rest) = front ++ text ++ lossyFrom .start rest := by
  cases state
  case start => exact ⟨[], lossyFrom_encode text rest⟩
  case inside low high more value =>
    obtain ⟨c, text, rfl⟩ := List.exists_cons_of_ne_nil ht
    obtain ⟨b, bytes, he, hb⟩ := exists_utf8EncodeChar_eq_cons c
    have hn : step low high more value b = none := by
      refine if_neg fun ⟨hl, hh⟩ => ?_
      rcases hb with hb | hb
      case inl =>
        exact UInt8.lt_irrefl _ (UInt8.lt_of_lt_of_le hb (UInt8.le_trans hs.1 hl))
      case inr =>
        have hb : (0xC0 : UInt8) ≤ 0xBF := UInt8.le_trans hb (UInt8.le_trans hh hs.2)
        exact absurd hb (by decide)
    have ht : encode (c :: text) ++ rest = b :: (bytes ++ encode text ++ rest) := by
      rw [encode, List.flatMap_cons, he, ← encode]
      rfl
    refine ⟨[replacement], ?_⟩
    rw [ht, lossyFrom_inside_of_none hn, ← ht, lossyFrom_encode]
    rfl

-- A text is read wherever it stands among bytes.
theorem infix_decodeLossy (before : Bytes) (text : List Char) (after : Bytes) :
    text <:+: decodeLossy (before ++ encode text ++ after) := by
  by_cases ht : text = []
  case pos => exact ht ▸ List.nil_infix
  case neg =>
    obtain ⟨front, state, hs, hf⟩ := @exists_lossyFrom_append before .start trivial
    obtain ⟨more, hm⟩ := exists_lossyFrom_encode hs ht after
    rw [decodeLossy, List.append_assoc, hf, hm]
    exact ⟨front ++ more, lossyFrom .start after, by simp only [List.append_assoc]⟩

end CourseAudit.Text.Utf8
