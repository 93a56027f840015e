import CourseAudit.Regex.Bracket
import CourseAudit.Unicode.Name

/-!
Reading a whole pattern: repetitions, groups, and the branches between them. Open groups wait on a
stack. A pattern that can be read is still refused if it is nested too deeply.
-/
namespace CourseAudit.Regex
namespace Reader

-- The parts of a branch, the last one first, each with the place where it starts.
abbrev Parts := List (Place × Ast)

/-!
Repetitions.
-/

-- What a repetition can be applied to: the last part, unless it is none.
def repeated (parts : Parts) : Reader (Place × Ast × Parts) :=
  match parts with
  | (_, .empty) :: _ | (_, .flags _) :: _ | [] => failHere .repetitionMissing
  | (start, a) :: rest => return (start, a, rest)

-- A question mark behind a repetition makes it prefer to stop.
def acceptLazy : Reader Bool := do
  if (← peek) = some '?' then
    bump
    return true
  return false

def repetition (least : Nat) (most : Option Nat) (parts : Parts) : Reader Parts := do
  let (start, a, rest) ← repeated parts
  bump
  let greedy := !(← acceptLazy)
  return (start, .repeat a least most greedy ⟨start, ← here⟩) :: rest

-- The counts of a repetition, up to the closing brace.
def counts (brace : Place) : Reader (Nat × Option Nat) := do
  let low ← decimal
  match ← peek with
  | none => failFrom .repetitionCountUnclosed brace
  | some ',' =>
    if !(← bumpSkip) then failFrom .repetitionCountUnclosed brace
    let least ← low
    if (← peek) = some '\x7d' then return (least, none)
    let most ← decimal
    return (least, some (← most))
  | some _ =>
    let n ← low
    return (n, some n)

def countedRepetition (parts : Parts) : Reader Parts := do
  let brace ← here
  let (start, a, rest) ← repeated parts
  if !(← bumpSkip) then failFrom .repetitionCountUnclosed brace
  let (least, most) ← counts brace
  if (← peek) ≠ some '\x7d' then failFrom .repetitionCountUnclosed brace
  let lazy ← if ← bumpSkip then acceptLazy else pure false
  if most.any (· < least) then failFrom .repetitionCountInvalid brace
  return (start, .repeat a least most (!lazy) ⟨start, ← here⟩) :: rest

/-!
Groups.
-/

-- The flags between a question mark and a colon or closing parenthesis. Each may stand once.
def flagLoop : Nat → List (Option Flag × Span) → Reader (List (Option Flag × Span))
  | 0, seen => return seen
  | n + 1, seen => do
    match ← peek with
    | none => failHere .flagUnexpectedEnd
    | some c =>
      if c = ':' || c = ')' then return seen
      let span := (← get).charSpan
      let flag ←
        if c = '-' then pure none
        else match Flag.ofChar? c with
          | some flag => pure (some flag)
          | none => fail .flagUnrecognized span
      match seen.find? (·.1 = flag) with
      | some (_, earlier) =>
        let fault := if flag.isNone then Fault.flagRepeatedNegation else .flagDuplicate
        throw ⟨fault, span, some earlier⟩
      | none =>
        bump
        if (← peek).isNone then failHere .flagUnexpectedEnd
        flagLoop n (seen ++ [(flag, span)])

def flagChange : Reader FlagChange := do
  let seen ← flagLoop (← fuel) []
  match seen.getLast? with
  | some (none, span) => fail .flagDanglingNegation span
  | _ =>
    let set := (seen.takeWhile (·.1.isSome)).filterMap (·.1)
    let unset := (seen.dropWhile (·.1.isSome)).filterMap (·.1)
    return ⟨set, unset⟩

def groupNameLoop (first : Bool) : Nat → Reader (List Char)
  | 0 => return []
  | n + 1 => do
    match ← peek with
    | none => return []
    | some c =>
      if c = '>' then return []
      else if !Unicode.isNameChar first c then failChar .groupNameInvalid
      else
        bump
        return c :: (← groupNameLoop false n)

def groupName (names : List (List Char × Span)) : Reader (List (List Char × Span)) := do
  if (← peek).isNone then failHere .groupNameUnexpectedEnd
  let start ← here
  let name ← groupNameLoop true (← fuel)
  let stop ← here
  if (← peek).isNone then failHere .groupNameUnexpectedEnd
  bump
  if name.isEmpty then fail .groupNameEmpty (.point start)
  match names.find? (·.1 = name) with
  | some (_, earlier) => throw ⟨.groupNameDuplicate, ⟨start, stop⟩, some earlier⟩
  | none => return (name, ⟨start, stop⟩) :: names

-- What was read of a group so far.
structure Body where
  -- Where the first branch and the present branch start.
  first : Place
  start : Place
  -- The finished branches, the last one first, and the parts of the present branch.
  branches : List Ast
  parts : Parts

namespace Body

def startingAt (p : Place) : Body := ⟨p, p, [], []⟩

def add (b : Body) (start : Place) (a : Ast) : Body :=
  { b with parts := (start, a) :: b.parts }

def branch (b : Body) (stop : Place) : Ast :=
  .ofParts ⟨b.start, stop⟩ (b.parts.reverse.map (·.2))

def toAst (b : Body) (stop : Place) : Ast :=
  match b.branches.reverse with
  | [] => b.branch stop
  | first :: rest => .ofBranches ⟨b.first, stop⟩ first (rest ++ [b.branch stop])

end Body

-- A group that waits for its end, with what was read of the group around it.
structure OpenGroup where
  around : Body
  index : Option Nat
  change : FlagChange
  span : Span
  ignoreBlanks : Bool

structure State where
  body : Body
  groups : List OpenGroup
  -- The groups so far whose place in the text is kept, and the names among them.
  captures : Nat
  names : List (List Char × Span)

namespace State

def add (s : State) (start : Place) (a : Ast) : State :=
  { s with body := s.body.add start a }

end State

def enter (s : State) (index : Option Nat) (change : FlagChange) (span : Span)
    (ignoreBlanks : Bool) : Reader State := do
  return { s with
    body := .startingAt (← here)
    groups := ⟨s.body, index, change, span, ignoreBlanks⟩ :: s.groups }

def enterCapture (s : State) (span : Span) (ignoreBlanks : Bool) : Reader State :=
  let index := s.captures + 1
  enter { s with captures := index } (some index) .none span ignoreBlanks

def openGroup (s : State) : Reader State := do
  let span := (← get).charSpan
  bump
  skipBlanks
  if (← accept ['?', '=']) || (← accept ['?', '!']) then failFrom .lookAround span.start
  if (← accept ['?', '<', '=']) || (← accept ['?', '<', '!']) then failFrom .lookAround span.start
  let inner ← here
  let old := (← get).ignoreBlanks
  let named ← do
    if ← accept ['?', 'P', '<'] then pure true else accept ['?', '<']
  if named then
    let names ← groupName s.names
    return ← enterCapture { s with names } span old
  if !(← accept ['?']) then return ← enterCapture s span old
  if (← peek).isNone then fail .groupUnclosed span
  let change ← flagChange
  let last ← peek
  bump
  let ignore := (change.state? .ignoreBlanks).getD old
  if last = some ')' then
    if change.set.isEmpty && change.unset.isEmpty then fail .repetitionMissing (.point inner)
    modify ({ · with ignoreBlanks := ignore })
    return s.add span.start (.flags change)
  modify ({ · with ignoreBlanks := ignore })
  enter s none change span old

def closeGroup (s : State) : Reader State := do
  match s.groups with
  | [] => failChar .groupUnopened
  | g :: groups =>
    modify ({ · with ignoreBlanks := g.ignoreBlanks })
    let inner := s.body.toAst (← here)
    bump
    let group : Ast := .group inner g.index g.change ⟨g.span.start, ← here⟩
    return { s with body := g.around.add g.span.start group, groups }

def nextBranch (s : State) : Reader State := do
  let branch := s.body.branch (← here)
  bump
  return { s with
    body := { s.body with start := ← here, branches := branch :: s.body.branches, parts := [] } }

def patternLoop : Nat → State → Reader State
  | 0, s => return s
  | n + 1, s => do
    skipBlanks
    let start ← here
    let withParts (parts : Parts) : State := { s with body := { s.body with parts } }
    match ← peek with
    | none => return s
    | some c =>
      let s ← match c with
        | '(' => openGroup s
        | ')' => closeGroup s
        | '|' => nextBranch s
        | '[' => pure (s.add start (.set (← bracketedClass)))
        | '?' => pure (withParts (← repetition 0 (some 1) s.body.parts))
        | '*' => pure (withParts (← repetition 0 none s.body.parts))
        | '+' => pure (withParts (← repetition 1 none s.body.parts))
        | '\x7b' => pure (withParts (← countedRepetition s.body.parts))
        | _ => pure (s.add start (← item).toAst)
      patternLoop n s

def pattern : Reader Ast := do
  let s ← patternLoop (← fuel) ⟨.startingAt (← here), [], 0, []⟩
  match s.groups with
  | [] => return s.body.toAst (← here)
  | g :: _ => fail .groupUnclosed g.span

end Reader

-- The levels that the parts of a pattern may be nested.
def nestLimit : Nat := 250

-- The syntax of a pattern, or the first fault in it.
def parseAst (pattern : List Char) : Except Failure Ast := do
  let (ast, _) ← Reader.pattern.run ⟨pattern, ⟨1, 1⟩, false⟩
  match ast.beyond? nestLimit with
  | some span => .error ⟨.nestLimit nestLimit, span, none⟩
  | none => .ok ast

end CourseAudit.Regex
