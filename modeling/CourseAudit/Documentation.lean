import CourseAudit.FileTree.Resolve
import CourseAudit.Scorecard
import CourseAudit.Text.Search
import CourseAudit.Text.Utf8
import CourseAudit.Unicode.Word

/-!
The documentation of a pattern has to cite a weakness or a vulnerability: `CWE-` with a number, or
`CVE-` with a year of four digits and a number of at least four. Only the shape is checked.
-/
namespace CourseAudit.Documentation

open Unicode (isDigit isWord)

-- The digits at the front of a text, if there are at least so many.
def number? (least : Nat) (text : List Char) : Option (List Char) :=
  let digits := text.takeWhile isDigit
  if least ≤ digits.length then some digits else none

-- What a weakness or a vulnerability is called, without regard to what follows.
def weakness? (text : List Char) : Option (List Char) := do
  let rest ← Text.stripStart? "CWE-".toList text
  let n ← number? 1 rest
  some ("CWE-".toList ++ n)

def vulnerability? (text : List Char) : Option (List Char) := do
  let rest ← Text.stripStart? "CVE-".toList text
  let year := rest.take 4
  if year.length = 4 ∧ year.all isDigit then
    let behind ← Text.stripStart? ['-'] (rest.drop 4)
    let n ← number? 4 behind
    some ("CVE-".toList ++ year ++ ['-'] ++ n)
  else none

-- The identifier at the front of a text, if no word character follows it.
def identifier? (text : List Char) : Option (List Char) :=
  match weakness? text <|> vulnerability? text with
  | some id => if (text.drop id.length).head?.any isWord then none else some id
  | none => none

-- All identifiers in a text that do not begin inside a word; `before` is the character in front.
def occurrences (before : Option Char) : List Char → List (List Char)
  | [] => []
  | c :: rest =>
    let here := if before.any isWord then none else identifier? (c :: rest)
    here.toList ++ occurrences (some c) rest

-- Keeps a list of texts in strictly increasing byte order.
def insert (id : String) : List String → List String
  | [] => [id]
  | x :: rest =>
    if id < x then id :: x :: rest
    else if id = x then x :: rest
    else x :: insert id rest

def identifiers (text : List Char) : List String :=
  ((occurrences none text).map String.ofList).foldr insert []

def checkName : String := "documentation"

def checkBytes (name : String) (bytes : Text.Utf8.Bytes) : CheckResult :=
  match identifiers (Text.Utf8.decodeLossy bytes) with
  | [] => ⟨checkName, .failed, name ++ " cites no CWE or CVE identifier"⟩
  | ids => ⟨checkName, .passed, name ++ ": " ++ Text.joinStrings ", " ids⟩

-- Bytes that are no text do not hide the identifiers around them.
def check (t : FileTree) (documentation : Option Path) : CheckResult :=
  match documentation with
  | none =>
    ⟨checkName, .skipped, "no SECURITY_ANALYSIS.md, *SECURITY_POSTER.md, or README.md"⟩
  | some path =>
    match t.read path with
    | .error e => ⟨checkName, .failed, "could not read " ++ path.fileName ++ ": " ++ e.message⟩
    | .ok bytes => checkBytes path.fileName bytes

end CourseAudit.Documentation
