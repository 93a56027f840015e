import CourseAudit.Audit.Plan
import CourseAudit.CommandLine.Arguments
import CourseAudit.Config.Reader

/-!
The two commands. `validate-pattern` validates one pattern, `validate-all` a whole course. What the
arguments say goes before what the configuration file says.
-/
namespace CourseAudit.CommandLine

-- The parameters that both commands have.
structure Common where
  full : Bool
  root : Option Path
  config : Option Path
  compiler : Option String
  verbose : Bool
  deriving DecidableEq, Repr

namespace Common

def parameters : List Parameter :=
  [.full, .root, .config, .compiler, .verbose, .help, .version]

def ofGiven (g : Given) : Common where
  full := g.has .full
  root := (g.value? .root).map Path.mk
  config := (g.value? .config).map Path.mk
  compiler := g.value? .compiler
  verbose := g.has .verbose

def mode (c : Common) : Mode :=
  .ofFull c.full

def apply (c : Common) (config : Config) : Config :=
  { config with compiler := c.compiler.getD config.compiler }

-- The root that was given, or the nearest one above the current directory.
def courseRoot (c : Common) (files : FileTree) : Except AuditFailure Path :=
  match c.root with
  | some root => .ok root
  | none => Course.findRoot files (Course.currentDirectory files)

def loadConfig (c : Common) (files : FileTree) (root : Path) : Except AuditFailure Config :=
  (Config.loadForRoot files root c.config).map c.apply

end Common

structure PatternCommand where
  pattern : String
  skipBuild : Bool
  common : Common
  deriving DecidableEq, Repr

namespace PatternCommand

def programName : String := "validate-pattern"

def grammar : Grammar := ⟨.skipBuild :: Common.parameters, true⟩

def ofGiven (g : Given) : PatternCommand where
  pattern := (g.value? .pattern).getD ""
  skipBuild := g.has .skipBuild
  common := .ofGiven g

def parse (arguments : List String) : Except Refusal PatternCommand :=
  (grammar.read arguments).map ofGiven

def options (c : PatternCommand) : Options :=
  ⟨c.common.mode, c.skipBuild⟩

end PatternCommand

structure CourseCommand where
  report : Option Path
  threshold : Option Float
  json : Bool
  common : Common

namespace CourseCommand

def programName : String := "validate-all"

def grammar : Grammar := ⟨[.report, .threshold, .json] ++ Common.parameters, false⟩

def ofGiven (g : Given) : CourseCommand where
  report := (g.value? .report).map Path.mk
  threshold := (g.value? .threshold).bind fun text => Decimal.float? text.toList
  json := g.has .json
  common := .ofGiven g

def parse (arguments : List String) : Except Refusal CourseCommand :=
  (grammar.read arguments).map ofGiven

def options (c : CourseCommand) : Options :=
  ⟨c.common.mode, false⟩

def apply (c : CourseCommand) (config : Config) : Config :=
  let config := c.common.apply config
  { config with
    reportPath := c.report.getD config.reportPath
    problemThreshold := c.threshold.getD config.problemThreshold }

end CourseCommand

-- A report path that is not absolute starts at the root of the course.
def reportPath (root path : Path) : Path :=
  root.join path.text

def versionText (program : String) : String :=
  program ++ " 0.1.0\n"

-- How much is told about the run itself, besides its result.
inductive LogLevel where
  | warn
  | debug
  deriving DecidableEq, Repr

namespace LogLevel

def ofVerbose (verbose : Bool) : LogLevel :=
  if verbose then .debug else .warn

def text : LogLevel → String
  | .warn => "warn"
  | .debug => "debug"

end LogLevel
end CourseAudit.CommandLine
