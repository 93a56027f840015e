import CourseAudit.Text.Blank
import CourseAudit.Text.Search
import CourseAudit.Unicode.Word

/-!
The lines by which static analyzers report: a file, a line number, perhaps a column, and a severity.
A summary such as "2 warnings generated." does not count, because the report begins the line.
-/
namespace CourseAudit.Diagnostic

def severities : List (List Char) :=
  ["warning", "error", "style", "performance", "portability"].map String.toList

-- A severity between a blank and a colon.
def severityFollows (text : List Char) : Bool :=
  severities.any fun s => ([' '] ++ s ++ [':']).isPrefixOf text

-- What follows a number and a colon.
def afterNumber? (text : List Char) : Option (List Char) :=
  if text.head?.any Unicode.isDigit then
    match text.dropWhile Unicode.isDigit with
    | ':' :: rest => some rest
    | _ => none
  else none

-- What follows the colon behind a file name.
def afterFile? (line : List Char) : Option (List Char) :=
  match line with
  | [] => none
  | c :: _ =>
    if Text.isBlank c || c = ':' then none
    else
      match line.dropWhile (· ≠ ':') with
      | ':' :: rest => some rest
      | _ => none

def isReport (line : List Char) : Bool :=
  match (afterFile? line).bind afterNumber? with
  | none => false
  | some rest => severityFollows rest || ((afterNumber? rest).map severityFollows).getD false

-- Whether any line of an output is a report.
def reports (output : List Char) : Bool :=
  (Text.split '\n' output).any isReport

end CourseAudit.Diagnostic
