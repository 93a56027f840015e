import CourseAudit.Regex.CharSet

/-!
Regular expressions over characters, with assertions about the place where they stand.

`Regex.Matches` says which stretches of a text an expression matches; `reach` computes, from a set
of places, all places at which a match can end.
-/
namespace CourseAudit

-- An assertion about a place in the text.
inductive Look where
  | textStart
  | textEnd
  | lineStart
  | lineEnd
  -- Lines that a carriage return, a newline or both together end.
  | anyLineStart
  | anyLineEnd
  | wordBoundary (unicode : Bool)
  | notWordBoundary (unicode : Bool)
  | wordStart (unicode : Bool)
  | wordEnd (unicode : Bool)
  | wordStartHalf (unicode : Bool)
  | wordEndHalf (unicode : Bool)
  deriving DecidableEq, Repr

inductive Regex where
  | empty
  | literal (text : List Char)
  | set (s : Regex.CharSet)
  | look (l : Look)
  | seq (r s : Regex)
  | alt (r s : Regex)
  -- At least `least` times in a row, and at most `most` times if that is given. A greedy repetition
  -- prefers to go on.
  | repeat (r : Regex) (least : Nat) (most : Option Nat) (greedy : Bool)
  -- A group whose place in the text is kept.
  | capture (index : Nat) (r : Regex)
  deriving DecidableEq, Repr

namespace Look

def isWord (unicode : Bool) (c : Option Char) : Bool :=
  match c with
  | none => false
  | some c => if unicode then Unicode.isWord c else Unicode.isAsciiWord c

-- Whether an assertion holds between two characters; at the ends of the text there is none.
def holds (before after : Option Char) : Look → Bool
  | .textStart => before.isNone
  | .textEnd => after.isNone
  | .lineStart => before.isNone || before = some '\n'
  | .lineEnd => after.isNone || after = some '\n'
  | .anyLineStart =>
    before.isNone || before = some '\n' || (before = some '\r' && after ≠ some '\n')
  | .anyLineEnd =>
    after.isNone || after = some '\r' || (after = some '\n' && before ≠ some '\r')
  | .wordBoundary u => isWord u before != isWord u after
  | .notWordBoundary u => isWord u before == isWord u after
  | .wordStart u => !isWord u before && isWord u after
  | .wordEnd u => isWord u before && !isWord u after
  | .wordStartHalf u => !isWord u before
  | .wordEndHalf u => !isWord u after

end Look

namespace Regex

-- The character before a place.
def before (text : Array Char) (i : Nat) : Option Char :=
  if i = 0 then none else text[i - 1]?

-- Whether some characters stand at a place.
def standsAt (text : Array Char) (cs : List Char) (i : Nat) : Bool :=
  match cs with
  | [] => true
  | c :: rest => text[i]? = some c && standsAt text rest (i + 1)

-- `Matches text r i j`: the expression `r` matches the text from place `i` to place `j`.
inductive Matches (text : Array Char) : Regex → Nat → Nat → Prop where
  | empty {i : Nat} : Matches text .empty i i
  | literal {cs : List Char} {i : Nat} (ok : standsAt text cs i = true) :
      Matches text (.literal cs) i (i + cs.length)
  | set {s : CharSet} {i : Nat} {c : Char} (mem : text[i]? = some c)
      (ok : s.contains c.toNat = true) :
      Matches text (.set s) i (i + 1)
  | look {l : Look} {i : Nat} (ok : l.holds (before text i) text[i]? = true) :
      Matches text (.look l) i i
  | seq {r s : Regex} {i j k : Nat} (left : Matches text r i j) (right : Matches text s j k) :
      Matches text (.seq r s) i k
  | altLeft {r s : Regex} {i j : Nat} (left : Matches text r i j) : Matches text (.alt r s) i j
  | altRight {r s : Regex} {i j : Nat} (right : Matches text s i j) : Matches text (.alt r s) i j
  | none {r : Regex} {i : Nat} {most : Option Nat} {greedy : Bool} :
      Matches text (.repeat r 0 most greedy) i i
  | more {r : Regex} {i j k least : Nat} {most : Option Nat} {greedy : Bool} (room : most ≠ some 0)
      (one : Matches text r i j)
      (rest : Matches text (.repeat r (least - 1) (most.map (· - 1)) greedy) j k) :
      Matches text (.repeat r least most greedy) i k
  | capture {index : Nat} {r : Regex} {i j : Nat} (inner : Matches text r i j) :
      Matches text (.capture index r) i j

/-!
Sets of places are strictly increasing lists.
-/

def merge : List Nat → List Nat → List Nat
  | [], js => js
  | is, [] => is
  | i :: is, j :: js =>
    if i < j then i :: merge is (j :: js)
    else if j < i then j :: merge (i :: is) js
    else i :: merge is js
termination_by is js => is.length + js.length

def without : List Nat → List Nat → List Nat
  | [], _ => []
  | is, [] => is
  | i :: is, j :: js =>
    if i < j then i :: without is (j :: js)
    else if j < i then without (i :: is) js
    else without is js
termination_by is js => is.length + js.length

-- Applies a step `n` times, or until it changes nothing any more.
def times (step : List Nat → List Nat) : Nat → List Nat → List Nat
  | 0, places => places
  | n + 1, places =>
    let next := step places
    if next = places then places else times step n next

-- All places reached by at most `n` steps. Only the places met for the first time are followed on.
def closure (step : List Nat → List Nat) : Nat → List Nat → List Nat → List Nat
  | 0, seen, _ => seen
  | n + 1, seen, fresh =>
    match without (step fresh) seen with
    | [] => seen
    | new => closure step n (merge seen new) new

def reach (text : Array Char) : Regex → List Nat → List Nat
  | .empty, places => places
  | .literal cs, places =>
    places.filterMap fun i => if standsAt text cs i then some (i + cs.length) else none
  | .set s, places =>
    places.filterMap fun i =>
      match text[i]? with
      | some c => if s.contains c.toNat then some (i + 1) else none
      | none => none
  | .look l, places => places.filter fun i => l.holds (before text i) text[i]?
  | .seq r s, places => reach text s (reach text r places)
  | .alt r s, places => merge (reach text r places) (reach text s places)
  | .capture _ r, places => reach text r places
  | .repeat r least most _, places =>
    let start := times (reach text r) least places
    closure (reach text r) ((most.map (· - least)).getD (text.size + 1)) start start

-- Whether an expression matches anywhere in a text.
def isMatch (r : Regex) (text : List Char) : Bool :=
  let text := text.toArray
  !(reach text r (List.range (text.size + 1))).isEmpty

end Regex
end CourseAudit
