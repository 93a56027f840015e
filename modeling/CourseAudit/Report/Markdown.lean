import CourseAudit.Decimal.Fixed
import CourseAudit.Report.Basic
import CourseAudit.Report.Table
import CourseAudit.Text.Blank
import CourseAudit.Text.Search

/-!
The report for readers: a Markdown text for a course, another for one pattern, and a short summary
for the terminal.
-/
namespace CourseAudit

-- The least success rate of each mark, highest first.
def statusLevels : List (Float × String) :=
  [(90.0, "✅"), (70.0, "🟢"), (50.0, "🟡"), (30.0, "🟠")]

def lowestStatus : String := "🔴"

def statusIcon (rate : Float) : String :=
  match statusLevels.find? fun (least, _) => least ≤ rate with
  | some (_, icon) => icon
  | none => lowestStatus

def rateText (rate : Float) : String :=
  Decimal.fixed 1 rate ++ "%"

def fraction (x : Float) : Float :=
  x - if x < 0.0 then x.ceil else x.floor

-- Percentages closer to a whole number than 2⁻⁵² are written without a decimal.
def thresholdText (threshold : Float) : String :=
  if (fraction threshold).abs < 2.220446049250313e-16 then Decimal.fixed 0 threshold
  else Decimal.fixed 1 threshold

-- A name in the typeface of code.
def codeText (name : String) : String :=
  "`" ++ name ++ "`"

def countText (passed evaluated : Nat) : String :=
  toString passed ++ "/" ++ toString evaluated

-- Sections are followed by an empty line.
def sectionsText (sections : List String) : String :=
  String.join (sections.map (· ++ "\n\n"))

namespace Scorecard

def table (s : Scorecard) : Report.Table :=
  (Report.Table.ofColumns [("Check", .left), ("Result", .left), ("Detail", .left)]).pushAll
    (s.results.map fun r => [r.name, r.outcome.text, r.detail])

def rateLine (s : Scorecard) : String :=
  "Success rate: " ++ rateText s.successRate ++ " " ++ statusIcon s.successRate ++ " ("
    ++ toString s.passedCount ++ " of " ++ toString s.evaluatedCount ++ " evaluated checks passed)"

def markdown (s : Scorecard) : String :=
  sectionsText [
    "## " ++ s.patternName ++ " (" ++ codeText s.module ++ ")",
    "Directory: " ++ codeText s.directory.text ++ "  \n" ++ s.rateLine,
    s.table.render]

-- The row of a pattern in the table of its module.
def row (s : Scorecard) : List String := [
  s.patternName,
  rateText s.successRate,
  statusIcon s.successRate,
  countText s.passedCount s.evaluatedCount,
  toString (s.count .failed),
  toString (s.count .inconclusive),
  toString (s.count .skipped)]

def problemHeading (s : Scorecard) : String :=
  "### " ++ s.patternName ++ " (" ++ codeText s.module ++ "): " ++ rateText s.successRate ++ " "
    ++ statusIcon s.successRate

def problemLine (r : CheckResult) : String :=
  "- **" ++ r.outcome.text ++ "** " ++ codeText r.name ++ ": "
    ++ String.ofList (Text.replaceChar '\n' [' '] r.detail.toList)

def problemText (s : Scorecard) : String :=
  s.problemHeading ++ "\n\n" ++ String.join (s.nonPassing.map (problemLine · ++ "\n")) ++ "\n"

end Scorecard

namespace ModuleSummary

def heading (m : ModuleSummary) : String :=
  "## " ++ m.title ++ " (" ++ codeText m.module ++ ")"

-- The last row of the table of a module; the counts of single outcomes are left out.
def totalRow (m : ModuleSummary) : List String := [
  "**Module total**",
  rateText m.successRate,
  statusIcon m.successRate,
  countText m.passedChecks m.evaluatedChecks]

def summaryRow (m : ModuleSummary) : List String := [
  m.module,
  countText m.fullyPassingPatterns m.patternCount,
  rateText m.successRate,
  statusIcon m.successRate]

end ModuleSummary

namespace Report

def patternColumns : List (String × Alignment) := [
  ("Pattern", .left),
  ("Rate", .right),
  ("Status", .center),
  ("Passed", .right),
  ("Failed", .right),
  ("Inconclusive", .right),
  ("Skipped", .right)]

def moduleTable (r : Report) (m : ModuleSummary) : Table :=
  ((Table.ofColumns patternColumns).pushAll ((r.scorecardsOf m.module).map (·.row))).push m.totalRow

def moduleSections (r : Report) : List String :=
  r.modules.flatMap fun m => [m.heading, (r.moduleTable m).render]

def headerText (r : Report) : String :=
  "Generated: " ++ r.moment.plain ++ "  \nMode: " ++ r.mode.text

def statisticsText (r : Report) : String :=
  Text.joinStrings "\n" [
    "- Modules: " ++ toString r.modules.length,
    "- Patterns: " ++ toString r.patternCount ++ " (" ++ toString r.fullyPassingPatterns
      ++ " fully passing)",
    "- Checks: " ++ toString (r.count .passed) ++ " passed of "
      ++ toString (total (·.evaluatedCount) r.scorecards) ++ " evaluated",
    "- Failed: " ++ toString (r.count .failed)
      ++ ", inconclusive: " ++ toString (r.count .inconclusive)
      ++ ", skipped: " ++ toString (r.count .skipped)
      ++ ", manual review: " ++ toString (r.count .manualReview),
    "- Overall success rate: **" ++ rateText r.successRate ++ "** " ++ statusIcon r.successRate]

def problems (r : Report) (threshold : Float) : List Scorecard :=
  r.scorecards.filter (·.successRate < threshold)

def problemsText (r : Report) (threshold : Float) : String :=
  match r.problems threshold with
  | [] => "No pattern is below " ++ thresholdText threshold ++ "%."
  | problems =>
    String.ofList (Text.trimRight (String.join (problems.map (·.problemText))).toList)

/-!
What to do next. The causes are read off the names and details of the checks.
-/

def isMissingSource (r : CheckResult) : Bool :=
  r.outcome = .failed && "discover:".toList.isPrefixOf r.name.toList

def isMissingAnalyzer (r : CheckResult) : Bool :=
  r.outcome = .skipped && "is not installed".toList.isSuffixOf r.detail.toList

def missingSources (r : Report) : Nat :=
  r.scorecards.countP (·.results.any isMissingSource)

def missingAnalyzers (r : Report) : Nat :=
  total (·.results.countP isMissingAnalyzer) r.scorecards

def advice (r : Report) : List (Nat × (String → String)) := [
  (r.missingSources, fun n =>
    "- Add the missing vulnerable or secure sources (" ++ n ++ " patterns)."),
  (r.count .failed, fun n =>
    "- Fix the checks that failed (" ++ n ++ "); details are listed above."),
  (r.count .inconclusive, fun n =>
    "- Investigate inconclusive checks (" ++ n
      ++ "): usually a timeout or a crash without a known sanitizer diagnostic."),
  (r.missingAnalyzers, fun n =>
    "- Install the missing static analyzers to run " ++ n ++ " skipped checks."),
  (r.count .manualReview, fun n =>
    "- Review " ++ n ++ " exploit demonstrations by hand.")]

-- The advice that applies to anything.
def recommendations (r : Report) : List String :=
  match (r.advice.filter (0 < ·.1)).map fun (n, text) => text (toString n) with
  | [] => ["- Nothing to do. Every check passed."]
  | lines => lines

def percentText (rate : Float) : String :=
  Decimal.fixed 0 rate ++ "%"

def legendRows : Option Float → List (Float × String) → List (List String)
  | _, [] => []
  | none, (least, icon) :: rest =>
    [icon, ">= " ++ percentText least] :: legendRows (some least) rest
  | some above, (least, icon) :: rest =>
    [icon, percentText least ++ " to " ++ percentText above] :: legendRows (some least) rest

def lowestRow : List String :=
  [lowestStatus, "below " ++ percentText ((statusLevels.getLast?.map (·.1)).getD 0.0)]

def legend : String :=
  ((Table.ofColumns [("Icon", .center), ("Success rate", .left)]).pushAll
      (legendRows none statusLevels ++ [lowestRow])).render
    ++ "\n\nSuccess rate = passed / (passed + failed + inconclusive). "
    ++ "Skipped checks and manual reviews are not counted."

def sections (r : Report) (threshold : Float) : List String :=
  ["# C++ Pattern Security Validation Report",
    r.headerText,
    "## Overall Statistics",
    r.statisticsText]
  ++ r.moduleSections
  ++ ["## Problem Patterns (below " ++ thresholdText threshold ++ "%)",
    r.problemsText threshold,
    "## Recommendations",
    Text.joinStrings "\n" r.recommendations,
    "## Legend",
    legend]

-- The report of a course. Patterns with a success rate below the threshold are listed in detail.
def markdown (r : Report) (threshold : Float) : String :=
  sectionsText (r.sections threshold)

def summaryTable (r : Report) : Table :=
  (Table.ofColumns
      [("Module", .left), ("Patterns", .right), ("Rate", .right), ("Status", .center)]).pushAll
    (r.modules.map (·.summaryRow))

def summary (r : Report) : String :=
  "Validated " ++ toString r.patternCount ++ " patterns: " ++ toString r.fullyPassingPatterns
    ++ " fully passing, overall success rate " ++ rateText r.successRate ++ " "
    ++ statusIcon r.successRate ++ "\n"
    ++ if r.summaryTable.isEmpty then "" else "\n" ++ r.summaryTable.render ++ "\n"

end Report
end CourseAudit
