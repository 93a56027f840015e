import CourseAudit.Unicode.WidthTable

/-!
The number of columns a text takes in a monospaced display, by the rules of Unicode Standard Annex
11 outside an East Asian context, with the ligatures and emoji sequences that take less or more than
their characters do.

A text is measured from its end, because what follows a character decides whether the character
opens a sequence. `After` is what has to be remembered of the text to the right.
-/
namespace CourseAudit.Unicode

-- The part of a sequence that begins with what stands to the right.
inductive Sequence where
  | plain
  | lineFeed
  | skinTone
  | flag
  | flags
  | emoji
  | joinedEmoji
  | joinedKeycap
  | joinedFlag
  | joinedFlagsEven
  | joinedFlagsOdd
  | tagEnd
  | tagLetters (n : Nat)
  | tagDigits (n : Nat)
  | alef
  | lamed (joined : Bool)
  | bugineseYa (joined : Bool)
  | bugineseVowelYa
  | tifinagh (joined : Bool)
  | tifinaghJoiner
  | lisuTone
  | orkhonI (joined : Bool)
  | khmerLetter
  | kiratE
  | kiratAi
  deriving DecidableEq, Repr

namespace Sequence

-- The sequences of letters that a selector does not break.
def isLigature : Sequence → Bool
  | .alef | .lamed _ | .bugineseYa _ | .bugineseVowelYa | .tifinagh _ | .tifinaghJoiner | .lisuTone
  | .orkhonI _ | .khmerLetter => true
  | _ => false

-- The ligatures in which joiners and selectors may stand anywhere.
def isTransparent (s : Sequence) : Bool :=
  s.isLigature && s ≠ .alef

def join : Sequence → Sequence
  | .lamed _ => .lamed true
  | .bugineseYa _ => .bugineseYa true
  | .tifinagh _ => .tifinagh true
  | .orkhonI _ => .orkhonI true
  | s => s

def isJoinedEmoji (s : Sequence) : Bool :=
  s = .joinedEmoji || s = .joinedKeycap

end Sequence

-- A variation selector asks for another form of the character before it: an emoji, a text
-- character, or a wide quotation mark. Inside a ligature one can stand behind the other.
structure After where
  sequence : Sequence
  asEmoji : Bool
  asText : Bool
  asWide : Bool
  deriving DecidableEq, Repr

namespace After

def of (s : Sequence) : After := ⟨s, false, false, false⟩

def nothing : After := .of .plain

def emojiSelector : After := { nothing with asEmoji := true }

def textSelector : After := { nothing with asText := true }

def wideSelector : After := { nothing with asWide := true }

def selectEmoji (a : After) : After :=
  if a.sequence.isLigature || a.sequence.isJoinedEmoji then { a with asEmoji := true }
  else emojiSelector

def selectText (a : After) : After :=
  if a.sequence.isLigature then { a with asText := true } else textSelector

def selectWide (a : After) : After :=
  if a.sequence.isLigature then { a with asWide := true } else wideSelector

-- What remains of a selector that the character before it does not heed.
def dropEmoji (a : After) : After :=
  if a.sequence.isLigature then { a with asEmoji := false } else nothing

def dropText (a : After) : After :=
  if a.sequence.isLigature then { a with asText := false } else nothing

def dropWide (a : After) : After :=
  if a.sequence.isLigature then { a with asWide := false } else nothing

end After

def isTifinaghConsonant (n : Nat) : Bool :=
  (0x2D31 ≤ n && n ≤ 0x2D65) || n == 0x2D6F

def isKhmerLetter (n : Nat) : Bool :=
  (0x1780 ≤ n && n ≤ 0x1782) || (0x1784 ≤ n && n ≤ 0x1787) || (0x1789 ≤ n && n ≤ 0x178C)
    || (0x178E ≤ n && n ≤ 0x1793) || (0x1795 ≤ n && n ≤ 0x1798) || (0x179B ≤ n && n ≤ 0x179D)
    || n == 0x17A0 || n == 0x17A2 || n == 0x17A7 || (0x17AB ≤ n && n ≤ 0x17AC) || n == 0x17AF

def isAlef (n : Nat) : Bool :=
  n == 0x622 || n == 0x623 || n == 0x625 || n == 0x627 || (0x671 ≤ n && n ≤ 0x673) || n == 0x675
    || n == 0x773 || n == 0x774 || (0x870 ≤ n && n ≤ 0x882)

def isLam (n : Nat) : Bool :=
  n == 0x644 || (0x6B5 ≤ n && n ≤ 0x6B8) || n == 0x76A || n == 0x8A6 || n == 0x8C7

def isFlagLetter (n : Nat) : Bool :=
  0x1F1E6 ≤ n && n ≤ 0x1F1FF

def isSkinTone (n : Nat) : Bool :=
  0x1F3FB ≤ n && n ≤ 0x1F3FF

-- The width of a character on its own, and the sequence that it can end.
def loneWidth (n : Nat) : Nat × After :=
  if n = 0xFE01 then (0, .wideSelector)
  else if n = 0xFE0E then (0, .textSelector)
  else if n = 0xFE0F then (0, .emojiSelector)
  else if isAlef n then (1, .of .alef)
  else if n = 0x5DC then (1, .of (.lamed false))
  else if n = 0x1A10 then (1, .of (.bugineseYa false))
  else if isTifinaghConsonant n then (1, .of (.tifinagh false))
  else if n = 0xA4FC ∨ n = 0xA4FD then (1, .of .lisuTone)
  else if n = 0x10C03 then (1, .of (.orkhonI false))
  else if isKhmerLetter n then (1, .of .khmerLetter)
  else if n = 0x16D67 then (1, .of .kiratE)
  else if n = 0x16D68 then (1, .of .kiratAi)
  else if isSkinTone n then (2, .of .skinTone)
  else if isFlagLetter n then (1, .of .flag)
  else if WidthTable.emoji.contains n then (2, .of .emoji)
  else if n = 0x17D8 then (3, .nothing)
  else if n = 0x17A4 then (2, .nothing)
  else if WidthTable.zero.contains n then (0, .nothing)
  else if WidthTable.wide.contains n then (2, .nothing)
  else (1, .nothing)

-- The columns that a character adds inside a sequence; `none` if it does not continue one.
def sequenceWidth (n : Nat) (s : Sequence) : Option (Int × Sequence) :=
  match s with
  | .alef =>
    if isLam n then some (0, .plain)
    else if WidthTable.joiningTransparent.contains n then some (0, .alef) else none
  | .lamed true => if n = 0x5D0 then some (0, .plain) else none
  | .khmerLetter => if n = 0x17D2 then some (-1, .plain) else none
  | .bugineseYa true => if n = 0x1A17 then some (0, .bugineseVowelYa) else none
  | .bugineseVowelYa => if n = 0x1A15 then some (0, .plain) else none
  | .tifinagh joined =>
    if n = 0x2D7F then some (1, .tifinaghJoiner)
    else if joined && isTifinaghConsonant n then some (0, .plain) else none
  | .tifinaghJoiner => if isTifinaghConsonant n then some (-1, .plain) else none
  | .lisuTone => if 0xA4F8 ≤ n ∧ n ≤ 0xA4FB then some (0, .plain) else none
  | .orkhonI true => if n = 0x10C32 then some (0, .plain) else none
  | .kiratE =>
    if n = 0x16D63 ∨ n = 0x16D69 then some (0, .plain)
    else if n = 0x16D67 then some (0, .kiratAi)
    else if n = 0x16D68 then some (1, .kiratE) else none
  | .kiratAi => if n = 0x16D63 then some (0, .plain) else none
  | .skinTone =>
    if WidthTable.modifierBase.contains n then some (0, .emoji)
    else if n = 0x200D then some (0, .joinedEmoji) else none
  | .flag => if isFlagLetter n then some (1, .flags) else none
  | .flags =>
    if isFlagLetter n then some (1, .flags)
    else if n = 0x200D then some (0, .joinedEmoji) else none
  | .emoji => if n = 0x200D then some (0, .joinedEmoji) else none
  | .joinedFlag => if isFlagLetter n then some (-1, .joinedFlagsEven) else none
  | .joinedFlagsEven =>
    if n = 0x200D then some (0, .joinedEmoji)
    else if isFlagLetter n then some (3, .joinedFlagsOdd) else none
  | .joinedFlagsOdd =>
    if n = 0x200D then some (0, .joinedEmoji)
    else if isFlagLetter n then some (-1, .joinedFlagsEven) else none
  | .joinedEmoji =>
    if n = 0x20E3 then some (0, .joinedKeycap)
    else if isFlagLetter n then some (1, .joinedFlag)
    else if isSkinTone n then some (0, .skinTone)
    else if n = 0xE007F then some (0, .tagEnd)
    else if WidthTable.emoji.contains n then some (0, .emoji) else none
  | .tagEnd =>
    if 0xE0061 ≤ n ∧ n ≤ 0xE007A then some (0, .tagLetters 1)
    else if 0xE0030 ≤ n ∧ n ≤ 0xE0039 then some (0, .tagDigits 1) else none
  | .tagLetters k =>
    if 0xE0061 ≤ n ∧ n ≤ 0xE007A ∧ k < 6 then some (0, .tagLetters (k + 1))
    else if 0xE0030 ≤ n ∧ n ≤ 0xE0039 ∧ k < 3 then some (0, .tagDigits 1)
    else if n = 0x1F3F4 ∧ 3 ≤ k then some (0, .emoji) else none
  | .tagDigits k =>
    if 0xE0030 ≤ n ∧ n ≤ 0xE0039 ∧ k < 3 then some (0, .tagDigits (k + 1))
    else if n = 0x1F3F4 ∧ 3 ≤ k then some (0, .emoji) else none
  | _ => none

def isQuotationMark (n : Nat) : Bool :=
  n == 0x2018 || n == 0x2019 || n == 0x201C || n == 0x201D

-- The columns of a character above U+00A0 that stands before a sequence without an emoji selector.
def columnsBefore (n : Nat) (a : After) : Int × After :=
  let lone : Int × After := ((loneWidth n).1, (loneWidth n).2)
  if a = .nothing then lone
  else if n = 0xFE01 then (0, a.selectWide)
  else if n = 0xFE0E then (0, a.selectText)
  else if n = 0xFE0F then (0, a.selectEmoji)
  else if a.asText && WidthTable.textBase.contains n then (1, .nothing)
  else if !a.asText && a.asWide && isQuotationMark n then (2, .nothing)
  else
    let a := if a.asText then a.dropText else if a.asWide then a.dropWide else a
    if a.sequence.isTransparent ∧ n = 0x200D then (0, { a with sequence := a.sequence.join })
    else if a.sequence.isTransparent ∧ WidthTable.ligatureTransparent.contains n then (0, a)
    else if a.asWide then lone
    else
      match sequenceWidth n a.sequence with
      | some (width, next) => (width, .of next)
      | none => lone

-- The columns of a character that stands before `a`. A sequence can take fewer columns than its
-- later characters do on their own, so the number can be negative.
def widthBefore (c : Char) (a : After) : Int × After :=
  let n := c.toNat
  if a.asEmoji ∧ WidthTable.emojiBase.contains n then
    (if a.sequence.isJoinedEmoji then 0 else 2, .of .emoji)
  else
    let a := if a.asEmoji then a.dropEmoji else a
    if n ≤ 0xA0 then
      if c = '\n' then (1, .of .lineFeed)
      else if c = '\r' ∧ a = .of .lineFeed then (0, .nothing)
      else (1, .nothing)
    else columnsBefore n a

-- The columns of a text in front of `a`, and what stands in front of it all.
def measure (a : After) : List Char → Int × After
  | [] => (0, a)
  | c :: rest =>
    let (width, a) := measure a rest
    let (more, a) := widthBefore c a
    (width + more, a)

def width (text : List Char) : Nat :=
  (measure .nothing text).1.toNat

-- Printable ASCII takes one column a character.
theorem measure_of_ascii {text : List Char} (h : ∀ c ∈ text, ' ' ≤ c ∧ c ≤ '~') :
    measure .nothing text = ((text.length : Int), After.nothing) := by
  induction text with
  | nil => rfl
  | cons c rest ih =>
    have hc := h c (List.mem_cons_self ..)
    have low : 0x20 ≤ c.toNat := hc.1
    have high : c.toNat ≤ 0x7E := hc.2
    have hn : c ≠ '\n' := by rintro rfl; simp at low
    have hr : c ≠ '\r' := by rintro rfl; simp at low
    rw [measure, ih fun x hx => h x (List.mem_cons_of_mem _ hx)]
    simp [widthBefore, After.nothing, After.of, hn, hr, show c.toNat ≤ 0xA0 by omega]

end CourseAudit.Unicode
