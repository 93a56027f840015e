import CourseAudit.Regex.Compile
import CourseAudit.Signature.Diagnostic

/-!
What a known diagnostic of a tool looks like, and which versions of the compiler print it.
-/
namespace CourseAudit

inductive Matcher where
  | substring (text : String)
  -- A line by which an analyzer reports.
  | report
  | pattern (r : Regex)

namespace Matcher

def isMatch : Matcher → String → Bool
  | .substring text, output => Text.containsString text output
  | .report, output => Diagnostic.reports output.toList
  | .pattern r, output => r.isMatch output.toList

end Matcher

-- Versions from the lowest to the highest; a side that is not given is open.
structure VersionRange where
  lowest : Option UInt32
  highest : Option UInt32
  deriving DecidableEq, Repr

namespace VersionRange

def any : VersionRange := ⟨none, none⟩

-- An unknown version is in every range.
def contains (r : VersionRange) : Option UInt32 → Bool
  | none => true
  | some major => r.lowest.all (· ≤ major) && r.highest.all (major ≤ ·)

end VersionRange

structure Signature where
  label : String
  matcher : Matcher
  versions : VersionRange

namespace Signature

def substring (text : String) : Signature :=
  ⟨text, .substring text, .any⟩

def analyzerReport : Signature :=
  ⟨"diagnostic", .report, .any⟩

def appliesTo (s : Signature) (major : Option UInt32) : Bool :=
  s.versions.contains major

def isMatch (s : Signature) (output : String) : Bool :=
  s.matcher.isMatch output

end Signature
end CourseAudit
