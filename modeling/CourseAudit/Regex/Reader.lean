import CourseAudit.Regex.Ast
import CourseAudit.Text.Blank

/-!
Going through a pattern character by character, and reading the numbers in it. Every loop takes at
least one character at a time, so the length of the pattern bounds it.
-/
namespace CourseAudit.Regex

-- What is left of the pattern, where it begins, and whether blanks in it mean nothing.
structure Cursor where
  rest : List Char
  place : Place
  ignoreBlanks : Bool

namespace Cursor

def next (p : Place) (c : Char) : Place :=
  if c = '\n' then ⟨p.line + 1, 1⟩ else ⟨p.line, p.column + 1⟩

def bump (k : Cursor) : Cursor :=
  match k.rest with
  | [] => k
  | c :: rest => { k with rest, place := next k.place c }

-- Passes over blanks, and over comments from a number sign to the end of the line.
def skipFrom (inComment : Bool) (p : Place) : List Char → List Char × Place
  | [] => ([], p)
  | c :: rest =>
    if inComment then skipFrom (c ≠ '\n') (next p c) rest
    else if Text.isBlank c then skipFrom false (next p c) rest
    else if c = '#' then skipFrom true (next p c) rest
    else (c :: rest, p)

def skipBlanks (k : Cursor) : Cursor :=
  if k.ignoreBlanks then
    let (rest, place) := skipFrom false k.place k.rest
    { k with rest, place }
  else k

def skipWhite (k : Cursor) : List Char → Cursor
  | [] => k
  | c :: rest => if Text.isBlank c then skipWhite k.bump rest else k

-- The character behind the one at the cursor, blanks apart. Of a comment only the number sign and
-- the blanks behind it are passed over.
def peekPast (k : Cursor) : Option Char :=
  let rest := k.rest.drop 1
  if k.ignoreBlanks then
    match rest.dropWhile Text.isBlank with
    | '#' :: comment => (comment.dropWhile Text.isBlank).head?
    | rest => rest.head?
  else rest.head?

-- The span of the character at the cursor.
def charSpan (k : Cursor) : Span :=
  match k.rest with
  | [] => .point k.place
  | c :: _ => ⟨k.place, next k.place c⟩

end Cursor

abbrev Reader := StateT Cursor (Except Failure)

namespace Reader

def peek : Reader (Option Char) := do
  return (← get).rest.head?

def here : Reader Place := do
  return (← get).place

def fail {α : Type} (fault : Fault) (span : Span) : Reader α :=
  throw ⟨fault, span, none⟩

def failHere {α : Type} (fault : Fault) : Reader α := do
  fail fault (.point (← here))

def failChar {α : Type} (fault : Fault) : Reader α := do
  fail fault (← get).charSpan

def failFrom {α : Type} (fault : Fault) (start : Place) : Reader α := do
  fail fault ⟨start, ← here⟩

def bump : Reader Unit := modify Cursor.bump

def skipBlanks : Reader Unit := modify Cursor.skipBlanks

-- One character on, and over the blanks behind it; tells whether any pattern is left.
def bumpSkip : Reader Bool := do
  bump
  skipBlanks
  return (← peek).isSome

-- Passes over a given text if it comes next.
def accept (text : List Char) : Reader Bool := do
  let k ← get
  if text.isPrefixOf k.rest then
    text.forM fun _ => bump
    return true
  return false

def isHexDigit (c : Char) : Bool :=
  c.isDigit || ('a' ≤ c && c ≤ 'f') || ('A' ≤ c && c ≤ 'F')

def digitValue (c : Char) : Nat :=
  if c.isDigit then c.toNat - 0x30
  else if 'a' ≤ c then c.toNat - 0x61 + 10
  else c.toNat - 0x41 + 10

def number (base : Nat) (digits : List Char) : Nat :=
  digits.foldl (fun n c => base * n + digitValue c) 0

def scalar? (digits : List Char) : Option Char :=
  let n := number 16 digits
  if h : n.isValidChar then some (Char.ofNatAux n h) else none

-- Takes characters of a kind, with blanks between them, until one of another kind comes.
def takeRun (fuel : Nat) (ok : Char → Bool) : Reader (List Char) := do
  match fuel with
  | 0 => return []
  | fuel + 1 =>
    match ← peek with
    | some c =>
      if ok c then
        let _ ← bumpSkip
        return c :: (← takeRun fuel ok)
      else return []
    | none => return []

def fuel : Reader Nat := do
  return (← get).rest.length + 1

-- A decimal number of at most 32 bits, as a reader that gives it or fails for it: a fault in a
-- number is told only once it is known what stands behind it.
def decimal : Reader (Reader Nat) := do
  modify fun k => k.skipWhite k.rest
  let start ← here
  let digits ← takeRun (← fuel) Char.isDigit
  let span : Span := ⟨start, ← here⟩
  let _ ← takeRun (← fuel) Text.isBlank
  let n := number 10 digits
  if digits.isEmpty then return fail .repetitionCountEmpty span
  if n < UInt32.size then return return n
  return fail .decimalInvalid span

end Reader
end CourseAudit.Regex
