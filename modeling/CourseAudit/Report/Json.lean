import CourseAudit.Report.Basic
import CourseAudit.Value.Json

/-!
The report as data for other programs.
-/
namespace CourseAudit

def CheckResult.value (r : CheckResult) : Value :=
  .object [("name", .string r.name), ("outcome", .string r.outcome.key),
    ("detail", .string r.detail)]

def Scorecard.value (s : Scorecard) : Value :=
  .object [
    ("pattern_name", .string s.patternName),
    ("module", .string s.module),
    ("directory", .string s.directory.text),
    ("results", .array (s.results.map (·.value))),
    ("success_rate", .float s.successRate),
    ("fully_passing", .bool s.isFullyPassing)]

def ModuleSummary.value (s : ModuleSummary) : Value :=
  .object [
    ("module", .string s.module),
    ("title", .string s.title),
    ("pattern_count", .integer s.patternCount),
    ("fully_passing_patterns", .integer s.fullyPassingPatterns),
    ("passed_checks", .integer s.passedChecks),
    ("evaluated_checks", .integer s.evaluatedChecks),
    ("success_rate", .float s.successRate)]

namespace Report

def value (r : Report) : Value :=
  .object [
    ("timestamp", .string r.moment.internet),
    ("mode", .string r.mode.text),
    ("overall_success_rate", .float r.successRate),
    ("total_patterns", .integer r.patternCount),
    ("fully_passing_patterns", .integer r.fullyPassingPatterns),
    ("modules", .array (r.modules.map (·.value))),
    ("patterns", .array (r.scorecards.map (·.value)))]

def json (r : Report) : String :=
  Value.Json.pretty 0 r.value

end Report
end CourseAudit
