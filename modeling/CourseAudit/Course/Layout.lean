import CourseAudit.Path
import CourseAudit.Text.Search

/-!
How a course names its directories. A course holds modules such as `03-creational`, and a module
holds patterns such as `lesson_3_1_singleton`.
-/
namespace CourseAudit.Course

def lessonMark : List Char := "lesson_".toList

-- Two digits, a minus sign, and at least one character more.
def isModuleName (name : String) : Bool :=
  match name.toList with
  | a :: b :: '-' :: _ :: _ => a.isDigit && b.isDigit
  | _ => false

-- The mark of a lesson, and at least one character more.
def isPatternName (name : String) : Bool :=
  match Text.stripStart? lessonMark name.toList with
  | some (_ :: _) => true
  | _ => false

def isNumber (segment : List Char) : Bool :=
  !segment.isEmpty && segment.all Char.isDigit

-- The segments behind the lesson numbers, joined again.
def afterNumbers (rest : List Char) : List Char :=
  Text.join ['_'] ((Text.split '_' rest).dropWhile isNumber)

-- What follows the lesson numbers; a name without them, or with nothing behind them, stays whole.
def shortName (name : List Char) : List Char :=
  match Text.stripStart? lessonMark name with
  | none => name
  | some rest => if (afterNumbers rest).isEmpty then name else afterNumbers rest

def patternName (directory : Path) : String :=
  String.ofList (shortName directory.fileName.toList)

def moduleName (directory : Path) : String :=
  match directory.parent? with
  | some p => p.fileName
  | none => ""

end CourseAudit.Course
