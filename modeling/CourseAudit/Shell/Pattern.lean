/-!
Patterns for names and texts: a star for any text, a question mark for one character, and brackets
for one out of a set. Quoted characters stand for themselves.
-/
namespace CourseAudit.Shell

-- A character of a word, and whether it stood in quotes.
structure Mark where
  char : Char
  quoted : Bool
  deriving DecidableEq, Repr

namespace Pattern

inductive Atom where
  | any
  | one
  | char (c : Char)
  | set (negated : Bool) (ranges : List (Char × Char))
  deriving DecidableEq, Repr

-- Named classes inside brackets, as ranges.
def classRanges (name : String) : List (Char × Char) :=
  match name with
  | "digit" => [('0', '9')]
  | "alpha" => [('a', 'z'), ('A', 'Z')]
  | "alnum" => [('a', 'z'), ('A', 'Z'), ('0', '9')]
  | "lower" => [('a', 'z')]
  | "upper" => [('A', 'Z')]
  | "space" => [('\t', '\r'), (' ', ' ')]
  | "blank" => [('\t', '\t'), (' ', ' ')]
  | "xdigit" => [('0', '9'), ('a', 'f'), ('A', 'F')]
  | "punct" => [('!', '/'), (':', '@'), ('[', '`'), ('\x7b', '~')]
  | _ => []

-- What stands in brackets, up to the closing one; a closing bracket at the front is a member.
def members : Nat → Bool → List Mark → Option (List (Char × Char) × List Mark)
  | 0, _, _ => none
  | _ + 1, _, [] => none
  | fuel + 1, first, m :: rest =>
    if m.char = ']' && !m.quoted && !first then some ([], rest)
    else
      let name := String.ofList ((rest.drop 1).takeWhile (·.char ≠ ':') |>.map (·.char))
      let behindName := (rest.drop 1).dropWhile (·.char ≠ ':')
      match m.char, rest.head?.map (·.char), behindName with
      | '[', some ':', _ :: close :: behind =>
        if close.char = ']' then
          (members fuel false behind).map fun (ranges, rest) => (classRanges name ++ ranges, rest)
        else (members fuel false rest).map fun (ranges, rest) => (('[', '[') :: ranges, rest)
      | low, _, _ =>
        match rest with
        | dash :: high :: behind =>
          if dash.char = '-' && !dash.quoted && (high.char ≠ ']' || high.quoted) then
            (members fuel false behind).map fun (ranges, rest) => ((low, high.char) :: ranges, rest)
          else (members fuel false rest).map fun (ranges, rest) => ((low, low) :: ranges, rest)
        | rest => (members fuel false rest).map fun (ranges, rest) => ((low, low) :: ranges, rest)

def bracket? (text : List Mark) : Option (Atom × List Mark) :=
  let (negated, text) := match text with
    | m :: rest => if m.char = '!' && !m.quoted then (true, rest) else (false, m :: rest)
    | [] => (false, [])
  (members (text.length + 1) true text).map fun (ranges, rest) => (.set negated ranges, rest)

def atomsWithin : Nat → List Mark → List Atom
  | 0, _ => []
  | _ + 1, [] => []
  | fuel + 1, m :: rest =>
    if m.quoted then .char m.char :: atomsWithin fuel rest
    else
      match m.char with
      | '*' => .any :: atomsWithin fuel rest
      | '?' => .one :: atomsWithin fuel rest
      | '[' =>
        match bracket? rest with
        | some (a, rest) => a :: atomsWithin fuel rest
        | none => .char '[' :: atomsWithin fuel rest
      | c => .char c :: atomsWithin fuel rest

def atoms (text : List Mark) : List Atom :=
  atomsWithin (text.length + 1) text

-- Whether a text has to be looked up among the names of files.
def isPattern (text : List Mark) : Bool :=
  (atoms text).any fun
    | .char _ => false
    | _ => true

def anySuffix (p : List Char → Bool) : List Char → Bool
  | [] => p []
  | c :: rest => p (c :: rest) || anySuffix p rest

def isMatch : List Atom → List Char → Bool
  | [], text => text.isEmpty
  | .any :: rest, text => anySuffix (isMatch rest) text
  | _ :: _, [] => false
  | .one :: rest, _ :: text => isMatch rest text
  | .char a :: rest, c :: text => a = c && isMatch rest text
  | .set negated ranges :: rest, c :: text =>
    (ranges.any (fun (low, high) => low ≤ c && c ≤ high) != negated) && isMatch rest text

-- What is left of a text when the shortest or longest beginning that matches is dropped.
def dropFront (longest : Bool) (pattern : List Atom) (text : List Char) : List Char :=
  let cuts := List.range (text.length + 1)
  let cuts := if longest then cuts.reverse else cuts
  match cuts.find? fun n => isMatch pattern (text.take n) with
  | some n => text.drop n
  | none => text

def dropBack (longest : Bool) (pattern : List Atom) (text : List Char) : List Char :=
  let cuts := List.range (text.length + 1)
  let cuts := if longest then cuts else cuts.reverse
  match cuts.find? fun n => isMatch pattern (text.drop n) with
  | some n => text.take n
  | none => text

end Pattern
end CourseAudit.Shell
