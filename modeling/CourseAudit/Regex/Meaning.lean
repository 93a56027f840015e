import CourseAudit.Regex.Ast
import CourseAudit.Regex.Normal
import CourseAudit.Regex.Property

/-!
The meaning of a pattern as an expression. Flags written inside a pattern hold from where they stand
to the end of their group, so the meaning is computed from left to right with the flags in force.

An expression matches characters and never a single byte of one. Outside Unicode a set reaches from
0 to 0x7F, and what would match a byte above that is refused.
-/
namespace CourseAudit.Regex

-- The flags in force at a place of the pattern.
structure Mode where
  caseInsensitive : Bool
  multiLine : Bool
  dotMatchesNewline : Bool
  swapGreed : Bool
  unicode : Bool
  carriageReturn : Bool

namespace Mode

def initial : Mode where
  caseInsensitive := false
  multiLine := false
  dotMatchesNewline := false
  swapGreed := false
  unicode := true
  carriageReturn := false

def change (m : Mode) (c : FlagChange) : Mode where
  caseInsensitive := (c.state? .caseInsensitive).getD m.caseInsensitive
  multiLine := (c.state? .multiLine).getD m.multiLine
  dotMatchesNewline := (c.state? .dotMatchesNewline).getD m.dotMatchesNewline
  swapGreed := (c.state? .swapGreed).getD m.swapGreed
  unicode := (c.state? .unicode).getD m.unicode
  carriageReturn := (c.state? .carriageReturn).getD m.carriageReturn

end Mode

abbrev Checked := Except Failure

def failAt {α : Type} (fault : Fault) (span : Span) : Checked α :=
  .error ⟨fault, span, none⟩

namespace Literal

-- Whether a literal stands for a byte that is no character.
def isHighByte (l : Literal) : Bool :=
  l.isByte && 0x7F < l.char.toNat

def inPattern (l : Literal) (m : Mode) : Checked Regex :=
  if !m.unicode && l.isHighByte then failAt .invalidUtf8 l.span
  else if m.caseInsensitive && (m.unicode || l.char.toNat ≤ 0x7F) then
    .ok (ofSet (.caseless m.unicode (.ofChar l.char)))
  else .ok (.literal [l.char])

-- The code point of a literal inside a class.
def inClass (l : Literal) (m : Mode) : Checked Nat :=
  if m.unicode || l.char.toNat ≤ 0x7F then .ok l.char.toNat
  else failAt (if l.isByte then .invalidUtf8 else .unicodeNotAllowed) l.span

end Literal

namespace Mode

def fold (m : Mode) (s : CharSet) : CharSet :=
  if m.caseInsensitive then s.caseless m.unicode else s

def negateIf (m : Mode) (negated : Bool) (span : Span) (s : CharSet) : Checked CharSet :=
  if !negated then .ok s
  else if m.unicode then .ok s.compl
  else failAt .invalidUtf8 span

def shorthand (m : Mode) : Shorthand → CharSet
  | .digit => if m.unicode then Unicode.digitTable else .asciiDigit
  | .blank => if m.unicode then .blank else .asciiBlank
  | .word => if m.unicode then Unicode.wordTable else .asciiWord

def property (m : Mode) (query : PropertyQuery) (negated : Bool) (span : Span) : Checked CharSet :=
  if !m.unicode then failAt .unicodeNotAllowed span
  else
    let (found, negated) := match query with
      | .named name => (Property.named name, negated)
      | .valued name value n => (Property.valued name value, negated != n)
    match found with
    | .ok s => m.negateIf negated span (m.fold s)
    | .error .property => failAt .propertyUnknown span
    | .error .value => failAt .propertyValueUnknown span

end Mode

namespace ClassAst

def meaning (m : Mode) : ClassAst → Checked CharSet
  | .empty _ => .ok .empty
  | .literal l => do
    let n ← l.inClass m
    .ok (.single n)
  | .range low high => do
    let a ← low.inClass m
    let b ← high.inClass m
    .ok (.ofRanges [(a, b)])
  | .ascii s negated span => m.negateIf negated span (m.fold s)
  | .shorthand kind negated span => m.negateIf negated span (m.shorthand kind)
  | .property query negated span => m.property query negated span
  | .bracketed inner negated span => do
    let s ← inner.meaning m
    m.negateIf negated span (m.fold s)
  | .items chain _ => chain.meaning m
  | .also s t => do
    let s ← s.meaning m
    let t ← t.meaning m
    .ok (s.union t)
  | .operation op s t _ => do
    let s ← s.meaning m
    let t ← t.meaning m
    .ok (op.apply (m.fold s) (m.fold t))

end ClassAst

namespace Mode

def dot (m : Mode) (span : Span) : Checked Regex :=
  if !m.unicode then failAt .invalidUtf8 span
  else if m.dotMatchesNewline then .ok (.set .all)
  else if m.carriageReturn then .ok (.set ((CharSet.ofChar '\n').union (CharSet.ofChar '\r')).compl)
  else .ok (.set (CharSet.ofChar '\n').compl)

def look (m : Mode) : LookAst → Look
  | .caret =>
    if !m.multiLine then .textStart else if m.carriageReturn then .anyLineStart else .lineStart
  | .dollar => if !m.multiLine then .textEnd else if m.carriageReturn then .anyLineEnd else .lineEnd
  | .textStart => .textStart
  | .textEnd => .textEnd
  | .wordBoundary => .wordBoundary m.unicode
  | .notWordBoundary => .notWordBoundary m.unicode
  | .wordStart => .wordStart m.unicode
  | .wordEnd => .wordEnd m.unicode
  | .wordStartHalf => .wordStartHalf m.unicode
  | .wordEndHalf => .wordEndHalf m.unicode

end Mode

namespace Ast

-- The expression that a pattern means, and the flags in force behind it.
def meaning (m : Mode) : Ast → Checked (Regex × Mode)
  | .empty => .ok (.empty, m)
  | .flags change => .ok (.empty, m.change change)
  | .literal l => do
    let r ← l.inPattern m
    .ok (r, m)
  | .dot span => do
    let r ← m.dot span
    .ok (r, m)
  | .look l => .ok (.look (m.look l), m)
  | .set s => do
    let set ← s.meaning m
    .ok (ofSet set, m)
  | .group inner index change _ => do
    let (r, _) ← inner.meaning (m.change change)
    .ok (match index with
      | some index => .capture index r
      | none => r, m)
  | .repeat inner least most greedy _ => do
    let (r, m) ← inner.meaning m
    .ok (repetition r least most (greedy != m.swapGreed), m)
  | .concat chain _ => do
    let (r, m) ← chain.meaning m
    .ok (Regex.concat [r], m)
  | .seq a b => do
    let (r, m) ← a.meaning m
    let (s, m) ← b.meaning m
    .ok (.seq r s, m)
  | .alternation chain _ => do
    let (r, m) ← chain.meaning m
    .ok (Regex.alternation r.branches, m)
  | .alt a b => do
    let (r, m) ← a.meaning m
    let (s, m) ← b.meaning m
    .ok (.alt r s, m)

end Ast
end CourseAudit.Regex
