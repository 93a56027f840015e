import CourseAudit.Unicode.Binary
import CourseAudit.Unicode.CaseFold
import CourseAudit.Unicode.RangeTable
import CourseAudit.Unicode.Word

/-!
Sets of characters as a pattern writes them: bracketed names, shorthands, and what a set becomes
when case is ignored.
-/
namespace CourseAudit.Regex

open Unicode (RangeTable)

abbrev CharSet := RangeTable

namespace CharSet

def ofChar (c : Char) : CharSet := .single c.toNat

-- The only character of a set that has no other.
def char? (s : CharSet) : Option Char :=
  match s.ranges.toList with
  | [(low, high)] => if low = high then some (Char.ofNat low) else none
  | _ => none

def isAscii (s : CharSet) : Bool :=
  match s.ranges.back? with
  | some range => range.2 < 0x80
  | none => true

def asciiDigit : CharSet := .ofRanges [(0x30, 0x39)]

def asciiWord : CharSet := .ofRanges [(0x30, 0x39), (0x41, 0x5A), (0x5F, 0x5F), (0x61, 0x7A)]

def asciiBlank : CharSet := .ofRanges [(9, 13), (0x20, 0x20)]

def blank : CharSet := (Unicode.NamedTable.find? Unicode.binaryProperties "space").getD .empty

-- The bracketed names of POSIX, on ASCII.
def ascii? (name : String) : Option CharSet :=
  match name with
  | "alnum" => some (.ofRanges [(0x30, 0x39), (0x41, 0x5A), (0x61, 0x7A)])
  | "alpha" => some (.ofRanges [(0x41, 0x5A), (0x61, 0x7A)])
  | "ascii" => some (.ofRanges [(0, 0x7F)])
  | "blank" => some (.ofRanges [(9, 9), (0x20, 0x20)])
  | "cntrl" => some (.ofRanges [(0, 0x1F), (0x7F, 0x7F)])
  | "digit" => some asciiDigit
  | "graph" => some (.ofRanges [(0x21, 0x7E)])
  | "lower" => some (.ofRanges [(0x61, 0x7A)])
  | "print" => some (.ofRanges [(0x20, 0x7E)])
  | "punct" => some (.ofRanges [(0x21, 0x2F), (0x3A, 0x40), (0x5B, 0x60), (0x7B, 0x7E)])
  | "space" => some asciiBlank
  | "upper" => some (.ofRanges [(0x41, 0x5A)])
  | "word" => some asciiWord
  | "xdigit" => some (.ofRanges [(0x30, 0x39), (0x41, 0x46), (0x61, 0x66)])
  | _ => none

-- A set with all characters that are the same letter as one of its own, by a list of pairs of the
-- same letter in which one of each letter always comes first.
def withPairs (pairs : List (Nat × Nat)) (s : CharSet) : CharSet :=
  let touched := pairs.filter fun (least, c) => s.contains least || s.contains c
  let leasts : CharSet := .ofRanges (touched.map fun (least, _) => (least, least))
  let others := pairs.filter fun (least, _) => leasts.contains least
  (s.union leasts).union (.ofRanges (others.map fun (_, c) => (c, c)))

def asciiPairs : List (Nat × Nat) :=
  (List.range 26).map fun i => (0x41 + i, 0x61 + i)

-- Outside Unicode only ASCII letters have case.
def caseless (unicode : Bool) (s : CharSet) : CharSet :=
  withPairs (if unicode then Unicode.foldPairs else asciiPairs) s

end CharSet
end CourseAudit.Regex
