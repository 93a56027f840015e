import Mathlib
import CourseAudit.Proofs.CodePoints
import CourseAudit.Proofs.Spans
import CourseAudit.Regex.Compile

/-!
What a pattern stands for. The meaning of a syntax tree is computed by equations for the usual
flags, under which characters are told by Unicode and a repetition prefers to go on. Main
statements: `denotes_of` and `Denotes.compile_eq`.
-/
namespace CourseAudit.Regex

-- The text of a pattern is read, and the expression is its meaning.
def Denotes (pattern : String) (r : Regex) : Prop :=
  ∃ ast mode, parseAst pattern.toList = .ok ast ∧ ast.meaning .initial = .ok (r, mode)

variable {pattern : String} {r : Regex}

theorem denotes_of {read : Checked Ast} (hp : parseAst pattern.toList = read)
    (hr : ((read.bind fun ast => ast.meaning .initial).map fun found => found.1) = .ok r) :
    Denotes pattern r := by
  cases read
  case error => cases hr
  case ok ast =>
    rw [Except.bind] at hr
    cases hm : ast.meaning .initial <;> rw [hm] at hr <;> cases hr
    exact ⟨ast, _, hp, hm⟩

-- Such a pattern can be refused for its size only.
theorem Denotes.compile_eq (h : Denotes pattern r) :
    compile pattern = if Automaton.fits r then .ok r else .error .tooBig := by
  have ⟨ast, mode, hp, hm⟩ := h
  rw [compile, hp]
  change (ast.meaning .initial).mapError CompileError.malformed >>= _ = _
  rw [hm]
  rfl

/-! ### Meaning -/

-- The flags that are in force at first, where the one for lines may be set.
def Mode.usual (multiLine : Bool) : Mode :=
  { Mode.initial with multiLine }

section

variable {lines : Bool}

theorem initial_eq : Mode.initial = .usual false :=
  rfl

theorem change_none : (Mode.usual lines).change ⟨[], []⟩ = .usual lines :=
  rfl

theorem change_multiLine : (Mode.usual lines).change ⟨[.multiLine], []⟩ = .usual true :=
  rfl

theorem inPattern_usual (l : Literal) : l.inPattern (.usual lines) = .ok (.literal [l.char]) := by
  simp [Literal.inPattern, Mode.usual, Mode.initial]

theorem inClass_usual (l : Literal) : l.inClass (.usual lines) = .ok l.char.toNat := by
  simp [Literal.inClass, Mode.usual, Mode.initial]

theorem negateIf_usual (negated : Bool) (span : Span) (s : CharSet) :
    (Mode.usual lines).negateIf negated span s = .ok (if negated then s.compl else s) := by
  cases negated <;> rfl

theorem fold_usual (s : CharSet) : (Mode.usual lines).fold s = s :=
  rfl

theorem shorthand_digit : (Mode.usual lines).shorthand .digit = Unicode.digitTable :=
  rfl

theorem shorthand_blank : (Mode.usual lines).shorthand .blank = .blank :=
  rfl

theorem swapGreed_usual (greedy : Bool) : (greedy != (Mode.usual lines).swapGreed) = greedy := by
  cases greedy <;> rfl

end

theorem ok_bind {α β : Type} (a : α) (f : α → Checked β) : (Except.ok a >>= f) = f a :=
  rfl

/-! ### Repetitions -/

section

variable {least : Nat} {most : Option Nat} {greedy : Bool}

-- A repetition of what can match some character stays as it is, unless it is made just once or not
-- at all.
theorem repetition_eq (h : r.maxLength ≠ some 0) (hm : ∀ n, most = some n → 1 < n ∨ least < n) :
    repetition r least most greedy = .repeat r least most greedy := by
  rw [repetition]
  grind

theorem utf8Size_pos (n : Nat) : 0 < utf8Size n := by
  rw [utf8Size]
  repeat' split
  all_goals omega

theorem maxLength_set_ne (s : CharSet) : maxLength (.set s) ≠ some 0 := by
  change s.ranges.back?.map (fun range => utf8Size range.2) ≠ some 0
  cases s.ranges.back?
  case none => nofun
  case some range => simpa using Nat.pos_iff_ne_zero.mp (utf8Size_pos range.2)

theorem maxLength_seq_none (h : r.maxLength = none) (s : Regex) :
    (Regex.seq r s).maxLength = none := by
  change (do return (← r.maxLength) + (← s.maxLength)) = none
  rw [h]
  rfl

theorem maxLength_repeat_none : (Regex.repeat r least none greedy).maxLength = none := by
  change (do return (← r.maxLength) * (← none)) = none
  cases r.maxLength <;> rfl

-- Several digits in a row.
def digits (least : Nat) (most : Option Nat) : Regex :=
  .repeat (.set Unicode.digitTable) least most true

theorem ofSet_digitTable : ofSet Unicode.digitTable = .set Unicode.digitTable := by
  obtain ⟨rest, hl⟩ := List.head?_eq_some_iff.mp Unicode.digitTable_ranges.2.1
  rw [ofSet, CharSet.char?, hl]
  cases rest <;> rfl

theorem repetition_set_none (s : CharSet) :
    repetition (.set s) least none greedy = .repeat (.set s) least none greedy :=
  repetition_eq (maxLength_set_ne s) fun _ h => nomatch h

theorem repetition_set_some (s : CharSet) {n : Nat} (hn : 1 < n ∨ least < n) :
    repetition (.set s) least (some n) greedy = .repeat (.set s) least (some n) greedy :=
  repetition_eq (maxLength_set_ne s) fun _ h => Option.some_inj.mp h ▸ hn

theorem repeat_digitTable :
    Regex.repeat (.set Unicode.digitTable) least most true = digits least most :=
  rfl

theorem spans_digits_iff {front piece rest : List Char} :
    (digits least most).Spans front piece rest ↔
      least ≤ piece.length ∧ (∀ m, most = some m → piece.length ≤ m) ∧
        ∀ c ∈ piece, Unicode.isDigit c = true := by
  rw [digits, spans_repeat_set_iff]
  simp only [Unicode.isDigit_eq]

end

end CourseAudit.Regex
