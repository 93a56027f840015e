import CourseAudit.Regex.Normal
import CourseAudit.Text.Utf8Range
import Std.Data.HashMap

/-!
The size of the automaton that searches for an expression. It reads bytes, and has a state for every
byte of a literal text, for every range of bytes, and for every place where ways part or meet. A
state where ways part keeps a list of them.

An expression is laid out twice: forward, to find where a match ends, and backward from there, to
find where it begins. What is laid out for a part of an expression has one way in and one way out.
It can end where ways part; then the list of that state grows when something is put behind it.
-/
namespace CourseAudit.Regex.Automaton

-- The bytes that an automaton may take.
def sizeLimit : Nat := 10485760

def stateSize : Nat := 32

-- What a way takes in the list of a state, if the state says where it leads, and if it says the
-- bytes too.
def waySize : Nat := 4

def byteWaySize : Nat := 8

inductive Direction where
  | forward
  | backward
  deriving DecidableEq, Repr

-- What is laid out so far: the states, which are numbered from zero, and the bytes of their lists.
structure Extent where
  states : Nat
  lists : Nat
  deriving DecidableEq, Repr

namespace Extent

def bytes (x : Extent) : Nat := stateSize * x.states + x.lists

end Extent

-- Lays something out behind what there is, unless it becomes too big.
abbrev Layout := StateT Extent Option

def grow (states lists : Nat) : Layout Unit := fun x =>
  let x : Extent := ⟨x.states + states, x.lists + lists⟩
  if x.bytes ≤ sizeLimit then some ((), x) else none

-- The number of the next state.
def nextState : Layout Nat := fun x => some (x.states, x)

-- Puts something behind a part that ends where ways part, or does not.
def link (parting : Bool) : Layout Unit :=
  grow 0 (if parting then waySize else 0)

/-!
Sets. A set of ASCII characters is a single state. Any other set is laid out from the byte ranges of
its characters, and states that continue alike are shared if they are found again. They are looked
for in a table in which a newer state takes the place of an older one with the same hash.
-/

def hashStart : UInt64 := 14695981039346656037

def hashWith (h : UInt64) (n : Nat) : UInt64 := (h ^^^ n.toUInt64) * 1099511628211

-- The way from a state by a range of bytes: the range, and the state where it leads.
abbrev Way := Nat × Nat × Nat

namespace Way

def hashFrom (h : UInt64) (way : Way) : UInt64 :=
  hashWith (hashWith (hashWith h way.1) way.2.1) way.2.2

end Way

abbrev Shared (κ : Type) := Std.HashMap Nat (κ × Nat)

namespace Shared

def find? {κ : Type} [DecidableEq κ] (table : Shared κ) (slot : Nat) (key : κ) : Option Nat :=
  match table[slot]? with
  | some (k, state) => if k = key then some state else none
  | none => none

end Shared

-- A layout that shares states.
abbrev Sharing (κ : Type) := StateT (Shared κ) Layout

-- The state with a key: the one that is found in its slot, or a new one with a list of some bytes.
def share {κ : Type} [DecidableEq κ] (slot : Nat) (key : κ) (lists : Nat) : Sharing κ Nat := do
  match (← get).find? slot key with
  | some state => return state
  | none =>
    let state ← nextState
    grow 1 lists
    modify (·.insert slot (key, state))
    return state

-- Sequences in a row that begin alike.
def groups : List Text.Utf8Range.Sequence →
    List ((Nat × Nat) × List Text.Utf8Range.Sequence)
  | [] => []
  | [] :: rest => groups rest
  | (range :: more) :: rest =>
    match groups rest with
    | (other, tails) :: later =>
      if other = range then (range, more :: tails) :: later
      else (range, [more]) :: (other, tails) :: later
    | [] => [(range, [more])]

-- The state from which some sequences lead to a target.
def forwardState (target : Nat) : Nat → List Text.Utf8Range.Sequence → Sharing (List Way) Nat
  | 0, _ => return target
  | depth + 1, sequences => do
    let ways ← (groups sequences).mapM fun (range, tails) => do
      let state ← if tails.all (·.isEmpty) then pure target else forwardState target depth tails
      return (range.1, range.2, state)
    share (ways.foldl Way.hashFrom hashStart % 10000).toNat ways (byteWaySize * ways.length)

-- The states of one sequence, the last byte read first.
def backwardState (target : Nat) (sequence : Text.Utf8Range.Sequence) : Sharing Way Nat :=
  sequence.foldlM (fun state range =>
    let way : Way := (state, range.1, range.2)
    share (way.hashFrom hashStart % 1000).toNat way 0) target

def laySequences (d : Direction) (sequences : List Text.Utf8Range.Sequence) : Layout Unit := do
  let first ← nextState
  match d with
  | .forward =>
    grow 1 0
    let _ ← (forwardState first 4 sequences).run ∅
  | .backward =>
    grow 2 (waySize * sequences.length)
    let _ ← (sequences.forM fun s => do let _ ← backwardState (first + 1) s).run ∅

/-!
Literal texts as the branches of a choice. Those that begin alike share their states. A text that
ends where others go on divides the ways of that state: those of the texts before it stay apart from
those of the texts behind it.
-/

-- The texts through a state, divided where one ends there.
def divide : List (List Nat) → List (List (List Nat))
  | [] => [[]]
  | [] :: rest => [] :: divide rest
  | word :: rest =>
    match divide rest with
    | chunk :: later => (word :: chunk) :: later
    | [] => [[word]]

-- Texts that end in a state before any goes on divide it once.
def chunks (words : List (List Nat)) : List (List (List Nat)) :=
  let behind := divide (words.dropWhile (·.isEmpty))
  if words.head?.any (·.isEmpty) then [] :: behind else behind

-- What the texts of a chunk have behind each first byte.
def byFirst (chunk : List (List Nat)) : List (List (List Nat)) :=
  let firsts := (chunk.filterMap (·.head?)).eraseDups
  firsts.map fun b => chunk.filterMap fun word =>
    match word with
    | c :: rest => if c = b then some rest else none
    | [] => none

def trieExtent : Nat → List (List Nat) → Extent
  | 0, _ => ⟨0, 0⟩
  | depth + 1, words =>
    let chunks := (chunks words).map byFirst
    let used := chunks.filter (!·.isEmpty)
    let own : Extent := ⟨used.length + 1, waySize * (used.length + chunks.length - 1)
      + (used.map fun ways => if ways.length = 1 then 0 else byteWaySize * ways.length).sum⟩
    (used.flatten.filter (·.any (!·.isEmpty))).foldl (fun x tails =>
      let y := trieExtent depth tails
      ⟨x.states + y.states, x.lists + y.lists⟩) own

def layTrie (d : Direction) (words : List (List Nat)) : Layout Unit :=
  let words := if d = .forward then words else words.map List.reverse
  let x := trieExtent ((words.map List.length).foldl max 0) words
  grow (x.states + 1) x.lists

/-!
Expressions. A layout of a part tells whether the part ends where ways part.
-/

abbrev Part := Layout Bool

-- Some copies of a part behind another part.
def copiesBehind (part : Part) (parting : Bool) : Nat → Part
  | 0 => return parting
  | n + 1 => do
    let next ← part
    link parting
    copiesBehind part next n

def copies (part : Part) : Nat → Part
  | 0 => do
    grow 1 0
    return false
  | n + 1 => do copiesBehind part (← part) n

-- Some copies of a part behind another part, before each of them a way past the rest.
def optionalBehind (part : Part) (parting : Bool) : Nat → Part
  | 0 => return parting
  | n + 1 => do
    grow 1 (2 * waySize)
    let next ← part
    link parting
    optionalBehind part next n

-- A part with a state behind it from which a way leads back.
def looped (part : Part) : Part := do
  link (← part)
  grow 1 waySize
  return true

def layRepeat (part : Part) (nullable : Bool) : Nat → Option Nat → Part
  | 0, some 1 => do
    grow 1 (2 * waySize)
    link (← part)
    grow 1 0
    return false
  | 0, none => do
    if nullable then
      link (← part)
      grow 3 (4 * waySize)
      return false
    else
      grow 1 waySize
      link (← part)
      return true
  | 1, none => looped part
  | n + 2, none => do
    let parting ← copies part (n + 1)
    let _ ← looped part
    link parting
    return true
  | least, some most => do
    let parting ← copies part least
    if least = most then return parting
    grow 1 0
    link (← optionalBehind part parting (most - least))
    return false

-- A branch of a choice, and its bytes if it is a literal text.
structure Branch where
  part : Part
  word? : Option (List Nat)

def layBranch (b : Branch) : Layout Unit := do
  link (← b.part)
  grow 0 waySize

def layChoice (d : Direction) : List Branch → Part
  | [] => return false
  | [b] => b.part
  | a :: b :: rest =>
    match (a :: b :: rest).mapM (·.word?) with
    | some words => do
      layTrie d words
      return false
    | none => do
      layBranch a
      layBranch b
      grow 2 0
      rest.forM layBranch
      return false

def utf8Bytes (cs : List Char) : List Nat :=
  cs.flatMap fun c => (String.utf8EncodeChar c).map UInt8.toNat

def branchesOf (d : Direction) : Regex → List Branch
  | .empty | .look _ =>
    let part := do
      grow 1 0
      return false
    [⟨part, none⟩]
  | .literal cs =>
    let bytes := utf8Bytes cs
    let part := do
      grow bytes.length 0
      return false
    [⟨part, some bytes⟩]
  | .set s =>
    let sequences := s.ranges.toList.flatMap Text.Utf8Range.ofRange
    let part := do
      if s.isAscii then grow 2 (byteWaySize * s.ranges.size) else laySequences d sequences
      return false
    [⟨part, none⟩]
  | .seq r s =>
    let r := layChoice d (branchesOf d r)
    let s := layChoice d (branchesOf d s)
    let part := do
      let parting ← if d = .forward then r else s
      let next ← if d = .forward then s else r
      link parting
      return next
    [⟨part, none⟩]
  | .alt r s => branchesOf d r ++ branchesOf d s
  | .repeat r least most _ =>
    [⟨layRepeat (layChoice d (branchesOf d r)) (r.minLength.getD 0 = 0) least most, none⟩]
  | .capture _ r =>
    let inner := layChoice d (branchesOf d r)
    let part := do
      if d = .backward then return ← inner
      grow 1 0
      link (← inner)
      grow 1 0
      return false
    [⟨part, none⟩]

/-!
The whole automaton. An expression that can only match at the end of the text where the search
begins is not looked for anywhere else.
-/

-- Whether every match begins at the start of the text.
def startsAtTextStart : Regex → Bool
  | .look l => l = .textStart
  | .seq r s => startsAtTextStart r || (r.maxLength = some 0 && startsAtTextStart s)
  | .alt r s => startsAtTextStart r && startsAtTextStart s
  | .repeat r least _ _ => 0 < least && startsAtTextStart r
  | .capture _ r => startsAtTextStart r
  | _ => false

def endsAtTextEnd : Regex → Bool
  | .look l => l = .textEnd
  | .seq r s => endsAtTextEnd s || (endsAtTextEnd r && s.maxLength = some 0)
  | .alt r s => endsAtTextEnd r && endsAtTextEnd s
  | .repeat r least _ _ => 0 < least && endsAtTextEnd r
  | .capture _ r => endsAtTextEnd r
  | _ => false

def layWhole (d : Direction) (r : Regex) : Layout Unit := do
  let anchored := if d = .forward then startsAtTextStart r else endsAtTextEnd r
  if anchored then grow 1 0 else grow 3 (byteWaySize + 2 * waySize)
  link (← layChoice d (branchesOf d (.capture 0 r)))
  grow 1 0

def fits (r : Regex) : Bool :=
  (layWhole .forward r ⟨0, 0⟩).isSome && (layWhole .backward r ⟨0, 0⟩).isSome

end CourseAudit.Regex.Automaton
