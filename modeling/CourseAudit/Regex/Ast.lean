import CourseAudit.Regex.CharSet
import CourseAudit.Regex.Error

/-!
The syntax of a pattern. A part that can be named in a fault, or that counts as a level of nesting,
keeps its place in the pattern.
-/
namespace CourseAudit.Regex

inductive Flag where
  | caseInsensitive
  | multiLine
  | dotMatchesNewline
  | swapGreed
  | unicode
  | carriageReturn
  | ignoreBlanks
  deriving DecidableEq, Repr

namespace Flag

def ofChar? : Char → Option Flag
  | 'i' => some .caseInsensitive
  | 'm' => some .multiLine
  | 's' => some .dotMatchesNewline
  | 'U' => some .swapGreed
  | 'u' => some .unicode
  | 'R' => some .carriageReturn
  | 'x' => some .ignoreBlanks
  | _ => none

end Flag

-- Flags as a group writes them: those before the minus sign are set, those after it are unset.
structure FlagChange where
  set : List Flag
  unset : List Flag
  deriving Repr

namespace FlagChange

def none : FlagChange := ⟨[], []⟩

def state? (change : FlagChange) (flag : Flag) : Option Bool :=
  if change.set.contains flag then some true
  else if change.unset.contains flag then some false
  else Option.none

end FlagChange

-- A single character of a pattern. One written as two hexadecimal digits can stand for a byte.
structure Literal where
  char : Char
  isByte : Bool
  span : Span
  deriving Repr

inductive Shorthand where
  | digit
  | blank
  | word
  deriving DecidableEq, Repr

inductive PropertyQuery where
  | named (name : List Char)
  | valued (name value : List Char) (negated : Bool)
  deriving Repr

inductive SetOperator where
  | inter
  | diff
  | symmDiff
  deriving DecidableEq, Repr

namespace SetOperator

def apply : SetOperator → CharSet → CharSet → CharSet
  | .inter => Unicode.RangeTable.inter
  | .diff => Unicode.RangeTable.diff
  | .symmDiff => Unicode.RangeTable.symmDiff

end SetOperator

inductive ClassAst where
  | empty (place : Place)
  | literal (l : Literal)
  | range (low high : Literal)
  | ascii (s : CharSet) (negated : Bool) (span : Span)
  | shorthand (kind : Shorthand) (negated : Bool) (span : Span)
  | property (query : PropertyQuery) (negated : Bool) (span : Span)
  | bracketed (inner : ClassAst) (negated : Bool) (span : Span)
  -- Two items or more, one behind the other.
  | items (chain : ClassAst) (span : Span)
  | also (s t : ClassAst)
  | operation (op : SetOperator) (s t : ClassAst) (span : Span)
  deriving Repr

inductive LookAst where
  | caret
  | dollar
  | textStart
  | textEnd
  | wordBoundary
  | notWordBoundary
  | wordStart
  | wordEnd
  | wordStartHalf
  | wordEndHalf
  deriving DecidableEq, Repr

inductive Ast where
  | empty
  | flags (change : FlagChange)
  | literal (l : Literal)
  | dot (span : Span)
  | look (l : LookAst)
  | set (s : ClassAst)
  -- A group with an index is one whose place in the text is kept.
  | group (inner : Ast) (index : Option Nat) (change : FlagChange) (span : Span)
  | repeat (inner : Ast) (least : Nat) (most : Option Nat) (greedy : Bool) (span : Span)
  -- Two parts or more, one behind the other.
  | concat (chain : Ast) (span : Span)
  -- Two branches or more.
  | alternation (chain : Ast) (span : Span)
  | seq (a b : Ast)
  | alt (a b : Ast)
  deriving Repr

namespace ClassAst

def span : ClassAst → Span
  | .empty p => .point p
  | .literal l => l.span
  | .range low high => ⟨low.span.start, high.span.stop⟩
  | .ascii _ _ span | .shorthand _ _ span | .property _ _ span | .bracketed _ _ span
  | .items _ span | .operation _ _ _ span => span
  | .also s t => ⟨s.span.start, t.span.stop⟩

def chainOf (s : ClassAst) : List ClassAst → ClassAst
  | [] => s
  | t :: rest => .also s (chainOf t rest)

-- The items of a class, which begins at a place.
def ofItems (start : Place) : List ClassAst → ClassAst
  | [] => .empty start
  | [s] => s
  | s :: rest => .items (chainOf s rest) (chainOf s rest).span

end ClassAst

namespace Ast

def seqOf (a : Ast) : List Ast → Ast
  | [] => a
  | b :: rest => .seq a (seqOf b rest)

def altOf (a : Ast) : List Ast → Ast
  | [] => a
  | b :: rest => .alt a (altOf b rest)

def ofParts (span : Span) : List Ast → Ast
  | [] => .empty
  | [a] => a
  | a :: rest => .concat (seqOf a rest) span

def ofBranches (span : Span) (first : Ast) : List Ast → Ast
  | [] => first
  | rest => .alternation (altOf first rest) span

end Ast

/-!
Nesting. Each level takes one off the room that is left; the first part without room is found in the
order in which the pattern writes the parts.
-/

namespace ClassAst

def beyond? (room : Nat) : ClassAst → Option Span
  | .bracketed inner _ span | .items inner span =>
    match room with
    | 0 => some span
    | room + 1 => inner.beyond? room
  | .operation _ s t span =>
    match room with
    | 0 => some span
    | room + 1 => s.beyond? room <|> t.beyond? room
  | .also s t => s.beyond? room <|> t.beyond? room
  | _ => none

end ClassAst

namespace Ast

def beyond? (room : Nat) : Ast → Option Span
  | .group inner _ _ span | .repeat inner _ _ _ span | .concat inner span
  | .alternation inner span =>
    match room with
    | 0 => some span
    | room + 1 => inner.beyond? room
  | .seq a b | .alt a b => a.beyond? room <|> b.beyond? room
  | .set s => s.beyond? room
  | _ => none

end Ast
end CourseAudit.Regex
