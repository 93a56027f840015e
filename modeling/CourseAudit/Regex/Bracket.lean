import CourseAudit.Regex.Escape

/-!
Bracketed classes. An open class waits on a stack with what was read of the class around it; a set
operator waits there with its left side.
-/
namespace CourseAudit.Regex

-- What was read of a class so far: where it begins, and its items, the last one first.
structure OpenItems where
  start : Place
  items : List ClassAst

namespace OpenItems

def add (s : OpenItems) (item : ClassAst) : OpenItems :=
  { s with items := item :: s.items }

def toClass (s : OpenItems) : ClassAst :=
  .ofItems s.start s.items.reverse

end OpenItems

inductive OpenClass where
  | bracket (around : OpenItems) (negated : Bool) (span : Span)
  | operator (op : SetOperator) (left : ClassAst)

namespace OpenClass

-- The left sides that wait on top of the stack, applied to what stands behind them.
def close (s : ClassAst) : List OpenClass → ClassAst × List OpenClass
  | .operator op left :: stack => (.operation op left s ⟨left.span.start, s.span.stop⟩, stack)
  | stack => (s, stack)

end OpenClass

namespace Reader

def classItem : Reader Item := do
  match ← peek with
  | some '\\' => escape
  | some c =>
    let span := (← get).charSpan
    bump
    return .literal ⟨c, false, span⟩
  | none => failHere .classUnclosed

def unclosed {α : Type} (stack : List OpenClass) : Reader α := do
  let span? := stack.findSome? fun
    | .bracket _ _ span => some span
    | .operator .. => none
  fail .classUnclosed (span?.getD (.point (← here)))

def asClassItem (i : Item) : Reader ClassAst :=
  match i with
  | .literal l => return .literal l
  | .set s => return s
  | .dot span | .look _ span => fail .classEscapeInvalid span

def asLiteral (i : Item) : Reader Literal :=
  match i with
  | .literal l => return l
  | i => fail .classRangeLiteral i.span

-- A minus sign is a literal right behind the opening of a class.
def leadingMinus (start : Place) : Nat → OpenItems → Reader OpenItems
  | 0, s => return s
  | n + 1, s => do
    if (← peek) = some '-' then
      let span := (← get).charSpan
      if !(← bumpSkip) then fail .classUnclosed (.point start)
      leadingMinus start n (s.add (.literal ⟨'-', false, span⟩))
    else return s

-- Opens a class: the bracket, a caret that negates, and the literals that may only stand first.
def openClass (around : OpenItems) : Reader (OpenClass × OpenItems) := do
  let start ← here
  if !(← bumpSkip) then failFrom .classUnclosed start
  let negated := (← peek) = some '^'
  if negated then
    if !(← bumpSkip) then failFrom .classUnclosed start
  let s ← leadingMinus start (← fuel) ⟨← here, []⟩
  let s ←
    if s.items.isEmpty && (← peek) = some ']' then
      let span := (← get).charSpan
      if !(← bumpSkip) then failFrom .classUnclosed start
      pure (s.add (.literal ⟨']', false, span⟩))
    else pure s
  return (.bracket around negated ⟨start, ← here⟩, s)

-- A name between `[:` and `:]`, if that is what comes next.
def asciiClass? : Reader (Option ClassAst) := do
  let k ← get
  match Text.stripStart? ['[', ':'] k.rest with
  | none => return none
  | some rest =>
    let (negated, rest) := match rest with
      | '^' :: rest => (true, rest)
      | rest => (false, rest)
    let name := rest.takeWhile (· ≠ ':')
    let behind := Text.stripStart? [':', ']'] (rest.drop name.length)
    match behind, CharSet.ascii? (String.ofList name) with
    | some after, some s =>
      (List.replicate (k.rest.length - after.length) ()).forM fun _ => bump
      return some (.ascii s negated ⟨k.place, ← here⟩)
    | _, _ => return none

-- An item, or a range of characters.
def classRange (stack : List OpenClass) : Reader ClassAst := do
  let first ← classItem
  skipBlanks
  match ← peek with
  | none => unclosed stack
  | some c =>
    let past := (← get).peekPast
    if c ≠ '-' || past = some ']' || past = some '-' then asClassItem first
    else
      if !(← bumpSkip) then unclosed stack
      let last ← classItem
      let low ← asLiteral first
      let high ← asLiteral last
      if high.char < low.char then fail .classRangeInvalid ⟨low.span.start, high.span.stop⟩
      return .range low high

-- A set operator is a character written twice.
def operator? : Reader (Option SetOperator) := do
  match (← get).rest with
  | '&' :: '&' :: _ => return some .inter
  | '-' :: '-' :: _ => return some .diff
  | '~' :: '~' :: _ => return some .symmDiff
  | _ => return none

def classLoop : Nat → List OpenClass → OpenItems → Reader ClassAst
  | 0, stack, _ => unclosed stack
  | n + 1, stack, s => do
    skipBlanks
    match ← peek with
    | none => unclosed stack
    | some '[' =>
      let ascii ← if stack.isEmpty then pure none else asciiClass?
      match ascii with
      | some t => classLoop n stack (s.add t)
      | none =>
        let (opened, inner) ← openClass s
        classLoop n (opened :: stack) inner
    | some ']' =>
      match OpenClass.close s.toClass stack with
      | (inner, .bracket around negated span :: stack) =>
        bump
        let whole : ClassAst := .bracketed inner negated ⟨span.start, ← here⟩
        if stack.isEmpty then return whole
        classLoop n stack (around.add whole)
      | (_, stack) => unclosed stack
    | some _ =>
      match ← operator? with
      | some op =>
        bump
        bump
        let (left, stack) := OpenClass.close s.toClass stack
        classLoop n (.operator op left :: stack) ⟨← here, []⟩
      | none =>
        let t ← classRange stack
        classLoop n stack (s.add t)

def bracketedClass : Reader ClassAst := do
  classLoop (2 * (← fuel)) [] ⟨← here, []⟩

end Reader
end CourseAudit.Regex
