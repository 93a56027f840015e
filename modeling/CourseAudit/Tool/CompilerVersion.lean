import CourseAudit.Decimal.Read
import CourseAudit.Text.Split
import CourseAudit.Unicode.Word

/-!
The major version of a compiler, read off the first line of what it prints about itself.
-/
namespace CourseAudit.CompilerVersion

open Unicode (isDigit)

-- The first run of digits with a point and a digit behind it; `run` holds the digits just passed.
def majorFrom (run : List Char) : List Char → Option (List Char)
  | [] => none
  | c :: rest =>
    if isDigit c then majorFrom (run ++ [c]) rest
    else if !run.isEmpty && c = '.' && rest.head?.any isDigit then some run
    else majorFrom [] rest

def majorDigits? (line : List Char) : Option (List Char) :=
  majorFrom [] line

-- The number that digits stand for; only ASCII digits within 32 bits do.
def number? (digits : List Char) : Option UInt32 :=
  if digits.all Unicode.isAsciiDigit && Decimal.digitsValue digits < UInt32.size then
    some (UInt32.ofNat (Decimal.digitsValue digits))
  else none

def parse? (output : String) : Option UInt32 := do
  let line ← (Text.lines output.toList).head?
  let digits ← majorDigits? line
  number? digits

end CourseAudit.CompilerVersion
