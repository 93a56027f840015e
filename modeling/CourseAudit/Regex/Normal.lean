import CourseAudit.Regex.Basic

/-!
Normal forms. `ofSet`, `concat`, `alternation` and `repetition` build an expression that matches
what its parts say and that is as plain as they can make it: a chain has no empty links and no two
literal texts in a row, a choice among single characters is a set, and what all branches of a choice
begin with stands in front of it.
-/
namespace CourseAudit.Regex

def utf8Size (n : Nat) : Nat :=
  if n < 0x80 then 1 else if n < 0x800 then 2 else if n < 0x10000 then 3 else 4

-- The bytes of the shortest text that an expression can match, if it can match any.
def minLength : Regex → Option Nat
  | .empty | .look _ => some 0
  | .literal cs => some ((cs.map Char.utf8Size).sum)
  | .set s => s.ranges[0]?.map fun range => utf8Size range.1
  | .seq r s => do return (← r.minLength) + (← s.minLength)
  | .alt r s => do return min (← r.minLength) (← s.minLength)
  | .repeat r least _ _ => r.minLength.map (· * least)
  | .capture _ r => r.minLength

-- The bytes of the longest text that an expression can match, if there is a bound on them.
def maxLength : Regex → Option Nat
  | .empty | .look _ => some 0
  | .literal cs => some ((cs.map Char.utf8Size).sum)
  | .set s => s.ranges.back?.map fun range => utf8Size range.2
  | .seq r s => do return (← r.maxLength) + (← s.maxLength)
  | .alt r s => do return max (← r.maxLength) (← s.maxLength)
  | .repeat r _ most _ => do return (← r.maxLength) * (← most)
  | .capture _ r => r.maxLength

def size : Regex → Nat
  | .empty | .literal _ | .set _ | .look _ => 1
  | .seq r s | .alt r s => r.size + s.size + 1
  | .repeat r _ _ _ | .capture _ r => r.size + 1

def ofSet (s : CharSet) : Regex :=
  match s.char? with
  | some c => .literal [c]
  | none => .set s

-- The links of a chain.
def parts : Regex → List Regex
  | .empty => []
  | .seq r s => r.parts ++ s.parts
  | r => [r]

def ofParts : List Regex → Regex
  | [] => .empty
  | [r] => r
  | r :: rest => .seq r (ofParts rest)

-- Puts a link in front of a chain, and makes one text of two literal texts.
def consLink : Regex → List Regex → List Regex
  | .literal a, .literal b :: rest => .literal (a ++ b) :: rest
  | r, rest => r :: rest

def concat (rs : List Regex) : Regex :=
  ofParts ((rs.flatMap parts).foldr consLink [])

-- The branches of a choice.
def branches : Regex → List Regex
  | .alt r s => r.branches ++ s.branches
  | r => [r]

-- A choice among nothing matches nothing.
def ofBranches : List Regex → Regex
  | [] => .set .empty
  | [r] => r
  | r :: rest => .alt r (ofBranches rest)

-- The set of all characters that some branches match, if each of them matches just one, or if each
-- of them is a set.
def set? (rs : List Regex) : Option CharSet :=
  let single? : Regex → Option CharSet
    | .literal [c] => some (.ofChar c)
    | _ => none
  let own? : Regex → Option CharSet
    | .set s => some s
    | _ => none
  ((rs.mapM single?) <|> (rs.mapM own?)).map fun sets =>
    .ofRanges (sets.flatMap fun s => s.ranges.toList)

def commonPrefix : List Regex → List Regex → List Regex
  | r :: rs, s :: ss => if r = s then r :: commonPrefix rs ss else []
  | _, _ => []

-- The links of a chain of at least two.
def chain? : Regex → Option (List Regex)
  | .seq r s => some (Regex.seq r s).parts
  | _ => none

-- What all branches begin with, and what each has behind it, if all of them are chains.
def factor? (rs : List Regex) : Option (List Regex × List Regex) :=
  match rs.mapM chain? with
  | some (first :: rest) =>
    let shared := rest.foldl commonPrefix first
    if shared.isEmpty then none
    else some (shared, (first :: rest).map fun links => concat (links.drop shared.length))
  | _ => none

-- Each round takes at least one link off each branch, so the size of the branches bounds the
-- rounds.
def alternationWithin : Nat → List Regex → Regex
  | 0, rs => ofBranches rs
  | n + 1, rs =>
    match rs.flatMap branches with
    | [] => ofBranches []
    | [r] => r
    | rs =>
      match set? rs with
      | some s => ofSet s
      | none =>
        match factor? rs with
        | some (shared, rest) => concat (shared ++ [alternationWithin n rest])
        | none => ofBranches rs

def alternation (rs : List Regex) : Regex :=
  alternationWithin (rs.foldr (fun r n => size r + n) 1) rs

-- To match nothing more than once is to match it once.
def repetition (r : Regex) (least : Nat) (most : Option Nat) (greedy : Bool) : Regex :=
  let nullOnly : Bool := r.maxLength = some 0
  let least := if nullOnly then min least 1 else least
  let most := if nullOnly then some (min (most.getD 1) 1) else most
  if least = 0 ∧ most = some 0 then .empty
  else if least = 1 ∧ most = some 1 then r
  else .repeat r least most greedy

end CourseAudit.Regex
