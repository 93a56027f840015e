import CourseAudit.Regex.Automaton
import CourseAudit.Regex.Meaning
import CourseAudit.Regex.Parser

/-!
From the text of a pattern to an expression that can be matched. A pattern is refused if it is
malformed, or if the automaton for it would not fit into the memory that is set apart for it.
-/
namespace CourseAudit.Regex

inductive CompileError where
  | malformed (failure : Failure)
  | tooBig
  deriving Repr

namespace CompileError

def message (pattern : String) : CompileError → String
  | .malformed failure => failure.message pattern
  | .tooBig => "Compiled regex exceeds size limit of " ++ toString Automaton.sizeLimit ++ " bytes."

end CompileError

def compile (pattern : String) : Except CompileError Regex := do
  let ast ← (parseAst pattern.toList).mapError .malformed
  let (r, _) ← (ast.meaning .initial).mapError .malformed
  if Automaton.fits r then .ok r else .error .tooBig

end CourseAudit.Regex
