import CourseAudit.Text.Split

/-!
What can be wrong with a pattern, and how the fault is shown: the pattern with carets under the
place, then the reason.
-/
namespace CourseAudit.Regex

-- A place in a pattern. Lines and columns count from one.
structure Place where
  line : Nat
  column : Nat
  deriving DecidableEq, Repr

structure Span where
  start : Place
  stop : Place
  deriving DecidableEq, Repr

namespace Span

def point (p : Place) : Span := ⟨p, p⟩

def isOneLine (s : Span) : Bool := s.start.line = s.stop.line

end Span

inductive Fault where
  | classEscapeInvalid
  | classRangeInvalid
  | classRangeLiteral
  | classUnclosed
  | decimalInvalid
  | hexEmpty
  | hexInvalid
  | hexInvalidDigit
  | escapeUnexpectedEnd
  | escapeUnrecognized
  | flagDanglingNegation
  | flagDuplicate
  | flagRepeatedNegation
  | flagUnexpectedEnd
  | flagUnrecognized
  | groupNameDuplicate
  | groupNameEmpty
  | groupNameInvalid
  | groupNameUnexpectedEnd
  | groupUnclosed
  | groupUnopened
  | nestLimit (limit : Nat)
  | repetitionCountInvalid
  | repetitionCountEmpty
  | repetitionCountUnclosed
  | repetitionMissing
  | wordBoundaryUnclosed
  | wordBoundaryUnrecognized
  | wordBoundaryUnexpectedEnd
  | unicodeClassInvalid
  | backreference
  | lookAround
  | unicodeNotAllowed
  | invalidUtf8
  | propertyUnknown
  | propertyValueUnknown
  deriving DecidableEq, Repr

namespace Fault

def reason : Fault → String
  | .classEscapeInvalid => "invalid escape sequence found in character class"
  | .classRangeInvalid => "invalid character class range, the start must be <= the end"
  | .classRangeLiteral => "invalid range boundary, must be a literal"
  | .classUnclosed => "unclosed character class"
  | .decimalInvalid => "decimal literal invalid"
  | .hexEmpty => "hexadecimal literal empty"
  | .hexInvalid => "hexadecimal literal is not a Unicode scalar value"
  | .hexInvalidDigit => "invalid hexadecimal digit"
  | .escapeUnexpectedEnd => "incomplete escape sequence, reached end of pattern prematurely"
  | .escapeUnrecognized => "unrecognized escape sequence"
  | .flagDanglingNegation => "dangling flag negation operator"
  | .flagDuplicate => "duplicate flag"
  | .flagRepeatedNegation => "flag negation operator repeated"
  | .flagUnexpectedEnd => "expected flag but got end of regex"
  | .flagUnrecognized => "unrecognized flag"
  | .groupNameDuplicate => "duplicate capture group name"
  | .groupNameEmpty => "empty capture group name"
  | .groupNameInvalid => "invalid capture group character"
  | .groupNameUnexpectedEnd => "unclosed capture group name"
  | .groupUnclosed => "unclosed group"
  | .groupUnopened => "unopened group"
  | .nestLimit limit =>
    "exceed the maximum number of nested parentheses/brackets (" ++ toString limit ++ ")"
  | .repetitionCountInvalid =>
    "invalid repetition count range, the start must be <= the end"
  | .repetitionCountEmpty => "repetition quantifier expects a valid decimal"
  | .repetitionCountUnclosed => "unclosed counted repetition"
  | .repetitionMissing => "repetition operator missing expression"
  | .wordBoundaryUnclosed =>
    "special word boundary assertion is either unclosed or contains an invalid character"
  | .wordBoundaryUnrecognized =>
    "unrecognized special word boundary assertion, valid choices are: start, end, start-half "
      ++ "or end-half"
  | .wordBoundaryUnexpectedEnd =>
    "found either the beginning of a special word boundary or a bounded repetition on a \\b with "
      ++ "an opening brace, but no closing brace"
  | .unicodeClassInvalid => "invalid Unicode character class"
  | .backreference => "backreferences are not supported"
  | .lookAround => "look-around, including look-ahead and look-behind, is not supported"
  | .unicodeNotAllowed => "Unicode not allowed here"
  | .invalidUtf8 => "pattern can match invalid UTF-8"
  | .propertyUnknown => "Unicode property not found"
  | .propertyValueUnknown => "Unicode property value not found"

end Fault

-- A fault with the place where it lies, and the place it conflicts with if there is one.
structure Failure where
  fault : Fault
  span : Span
  other : Option Span
  deriving Repr

namespace Failure

def blanks (n : Nat) : String := String.ofList (List.replicate n ' ')

def carets (n : Nat) : String := String.ofList (List.replicate n '^')

-- The spans of one line in the order of their places.
def sorted (spans : List Span) : List Span :=
  spans.mergeSort fun s t =>
    s.start.column < t.start.column ||
      (s.start.column = t.start.column && s.stop.column ≤ t.stop.column)

def marks (padding : Nat) (spans : List Span) : String :=
  let (text, _) := (sorted spans).foldl (fun (text, position) s =>
    let gap := (s.start.column - 1) - position
    let length := max 1 (s.stop.column - s.start.column)
    (text ++ blanks gap ++ carets length, position + gap + length)) ("", 0)
  blanks padding ++ text

def spans (f : Failure) : List Span :=
  f.span :: f.other.toList

-- The lines of the pattern, each followed by the marks under it.
def annotated (f : Failure) (pattern : String) : String :=
  let lines := Text.linesOfString pattern
  let count := lines.length + if pattern.toList.getLast? = some '\n' then 1 else 0
  let width := if count ≤ 1 then 0 else (toString count).length
  let padding := if width = 0 then 4 else width + 2
  let oneLine := f.spans.filter (·.isOneLine)
  String.join <| lines.zipIdx.map fun (line, i) =>
    let number := toString (i + 1)
    let lead := if width = 0 then "    " else blanks (width - number.length) ++ number ++ ": "
    let here := oneLine.filter fun s => s.start.line = i + 1
    lead ++ line ++ "\n" ++ if here.isEmpty then "" else marks padding here ++ "\n"

def message (f : Failure) (pattern : String) : String :=
  let reason := "error: " ++ f.fault.reason
  if pattern.toList.contains '\n' then
    let divider := String.ofList (List.replicate 79 '~') ++ "\n"
    let notes := (f.spans.filter (!·.isOneLine)).map fun s =>
      "on line " ++ toString s.start.line ++ " (column " ++ toString s.start.column
        ++ ") through line " ++ toString s.stop.line ++ " (column "
        ++ toString (s.stop.column - 1) ++ ")"
    let notes := if notes.isEmpty then "" else Text.joinStrings "\n" notes ++ "\n"
    "regex parse error:\n" ++ divider ++ f.annotated pattern ++ divider ++ notes ++ reason
  else
    "regex parse error:\n" ++ f.annotated pattern ++ reason

end Failure
end CourseAudit.Regex
