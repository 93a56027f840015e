import CourseAudit.Text.Split

/-!
Sets of code points, given as the list of their ranges in increasing order and searched by halving.

A table is written as text, the way the Unicode data files write it: ranges in hexadecimal,
separated by blanks, `41-5A` for a range, `5F` for a single code point and `100-12E/2` for every
second one of a range.

The operations keep two rules. Ranges that touch are one range; and no range begins or ends among
the surrogates, so the neighbours of a range step over them.
-/
namespace CourseAudit.Unicode

structure RangeTable where
  ranges : Array (Nat × Nat)
  deriving DecidableEq, Repr

namespace RangeTable

def hexValue (digits : List Char) : Nat :=
  digits.foldl (fun n c =>
    16 * n + if c.isDigit then c.toNat - '0'.toNat else c.toNat - 'A'.toNat + 10) 0

-- The code points from `low` to `high` that are `step` apart.
def everyNth (low high step : Nat) : List (Nat × Nat) :=
  (List.range ((high - low) / step + 1)).map fun i => (low + i * step, low + i * step)

def parseRange (item : List Char) : List (Nat × Nat) :=
  match Text.split '-' item with
  | [low, high] =>
    match Text.split '/' high with
    | [high, step] => everyNth (hexValue low) (hexValue high) (hexValue step)
    | _ => [(hexValue low, hexValue high)]
  | _ => [(hexValue item, hexValue item)]

def ofText (text : String) : RangeTable where
  ranges :=
    ((Text.split ' ' (text.toList.map fun c => if c = '\n' then ' ' else c)).filter
      (!·.isEmpty)).flatMap parseRange |>.toArray

-- The first range from `low` on, and below `high`, that does not end before `n`.
def search (ranges : Array (Nat × Nat)) (n low high : Nat) : Nat :=
  if low < high then
    let middle := (low + high) / 2
    match ranges[middle]? with
    | none => high
    | some range =>
      if range.2 < n then search ranges n (middle + 1) high else search ranges n low middle
  else low
termination_by high - low

def contains (table : RangeTable) (n : Nat) : Bool :=
  match table.ranges[search table.ranges n 0 table.ranges.size]? with
  | some range => range.1 ≤ n ∧ n ≤ range.2
  | none => false

def empty : RangeTable := ⟨#[]⟩

def isEmpty (table : RangeTable) : Bool := table.ranges.isEmpty

-- The last code point.
def last : Nat := 0x10FFFF

def all : RangeTable := ⟨#[(0, last)]⟩

def single (n : Nat) : RangeTable := ⟨#[(n, n)]⟩

def next (n : Nat) : Nat := if n = 0xD7FF then 0xE000 else n + 1

def previous (n : Nat) : Nat := if n = 0xE000 then 0xD7FF else n - 1

-- Makes one range of those that overlap or touch.
def joinFrom (r : Nat × Nat) : List (Nat × Nat) → List (Nat × Nat)
  | [] => [r]
  | s :: rest => if s.1 ≤ r.2 + 1 then joinFrom (r.1, max r.2 s.2) rest else r :: joinFrom s rest

def precedes (r s : Nat × Nat) : Bool :=
  r.1 < s.1 || (r.1 = s.1 && r.2 ≤ s.2)

-- The set of all code points of some ranges in any order.
def ofRanges (ranges : List (Nat × Nat)) : RangeTable :=
  match ranges.mergeSort precedes with
  | [] => empty
  | r :: rest => ⟨(joinFrom r rest).toArray⟩

def union (s t : RangeTable) : RangeTable :=
  if s.isEmpty then t else if t.isEmpty then s
  else ofRanges (s.ranges.toList ++ t.ranges.toList)

def interRanges : List (Nat × Nat) → List (Nat × Nat) → List (Nat × Nat)
  | [], _ => []
  | _, [] => []
  | r :: rs, s :: ss =>
    let rest := if r.2 < s.2 then interRanges rs (s :: ss) else interRanges (r :: rs) ss
    if max r.1 s.1 ≤ min r.2 s.2 then (max r.1 s.1, min r.2 s.2) :: rest else rest
termination_by rs ss => rs.length + ss.length

def inter (s t : RangeTable) : RangeTable :=
  ⟨(interRanges s.ranges.toList t.ranges.toList).toArray⟩

def diffRanges : List (Nat × Nat) → List (Nat × Nat) → List (Nat × Nat)
  | [], _ => []
  | rs, [] => rs
  | r :: rs, s :: ss =>
    if s.2 < r.1 then diffRanges (r :: rs) ss
    else if r.2 < s.1 then r :: diffRanges rs (s :: ss)
    else
      let before := if r.1 < s.1 then [(r.1, previous s.1)] else []
      let rest :=
        if s.2 < r.2 then diffRanges ((next s.2, r.2) :: rs) ss else diffRanges rs (s :: ss)
      before ++ rest
termination_by rs ss => rs.length + ss.length

def diff (s t : RangeTable) : RangeTable :=
  ⟨(diffRanges s.ranges.toList t.ranges.toList).toArray⟩

def symmDiff (s t : RangeTable) : RangeTable :=
  (s.union t).diff (s.inter t)

-- What lies behind each range and before the next. Two ranges with nothing but surrogates between
-- them leave no room; there the bounds change places, and the gap is the two code points around it.
def gapsFrom (r : Nat × Nat) : List (Nat × Nat) → List (Nat × Nat)
  | [] => if r.2 < last then [(next r.2, last)] else []
  | s :: rest =>
    (min (next r.2) (previous s.1), max (next r.2) (previous s.1)) :: gapsFrom s rest

def compl (s : RangeTable) : RangeTable :=
  match s.ranges.toList with
  | [] => all
  | r :: rest =>
    let start := if 0 < r.1 then [(0, previous r.1)] else []
    ⟨(start ++ gapsFrom r rest).toArray⟩

-- A table holds only what one of its ranges holds.
theorem exists_range_of_contains {table : RangeTable} {n : Nat} (h : table.contains n = true) :
    ∃ range ∈ table.ranges, range.1 ≤ n ∧ n ≤ range.2 := by
  rw [contains] at h
  split at h
  case h_1 range hr => exact ⟨range, Array.mem_of_getElem? hr, by simpa using h⟩
  case h_2 => simp at h

end RangeTable
end CourseAudit.Unicode
