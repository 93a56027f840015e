import CourseAudit.Audit.Batch
import CourseAudit.CommandLine.Basic
import CourseAudit.FileTree.Edit
import CourseAudit.Report.Json
import CourseAudit.Report.Markdown

/-!
Carrying out a command. The exit code is 0 if no check counts against the course or the pattern, 1
if one does, and 2 if nothing could be said.
-/
namespace CourseAudit.CommandLine

-- How a command ends, what it prints, and the report it writes.
structure Finish where
  exitCode : Nat
  output : String
  report : Option (Path × String)
  deriving DecidableEq, Repr

namespace Finish

def fault : Finish := ⟨2, "", none⟩

-- The exit code of a program that broke down.
def broken : Finish := ⟨101, "", none⟩

def ofStop : Stop → Finish
  | .failure _ => fault
  | .breakdown _ => broken

def ofOutcome (passing : Bool) (output : String) (report : Option (Path × String)) : Finish :=
  ⟨if passing then 0 else 1, output, report⟩

def ofRefusal (program : String) (r : Refusal) : Finish :=
  match r with
  | .versionWanted => ⟨r.exitCode, versionText program, none⟩
  | .helpWanted => ⟨r.exitCode, "Usage: " ++ program ++ " [OPTIONS]\n", none⟩
  | r => ⟨r.exitCode, "", none⟩

end Finish

def auditor? (config : Config) : Option Auditor :=
  match config.signatureTable with
  | .ok signatures => some ⟨config, signatures, config.contract⟩
  | .error _ => none

variable {σ : Type}

namespace PatternCommand

def auditorAndDirectory? (c : PatternCommand) (files : FileTree) : Option (Auditor × Path) := do
  let root ← (c.common.courseRoot files).toOption
  let config ← (c.common.loadConfig files root).toOption
  let auditor ← auditor? config
  let directory ← (Course.resolvePattern files root c.pattern).toOption
  some (auditor, directory)

def run (c : PatternCommand) (files : FileTree) (h : Host σ) (s : Session σ) : Finish × Session σ :=
  match c.auditorAndDirectory? files with
  | none => (.fault, s)
  | some (auditor, directory) =>
    match auditor.validate files h directory c.options s with
    | (.ok scorecard, s) => (.ofOutcome scorecard.isFullyPassing scorecard.markdown none, s)
    | (.error e, s) => (.ofStop e, s)

end PatternCommand

namespace CourseCommand

def auditorAndRoot? (c : CourseCommand) (files : FileTree) : Option (Auditor × Path) := do
  let root ← (c.common.courseRoot files).toOption
  let config ← (c.common.loadConfig files root).toOption
  let auditor ← auditor? (c.apply config)
  some (auditor, root)

-- Writes a file, in directories that are made for it where they are missing.
def writeBelow (files : FileTree) (path : Path) (text : String) : Except OsError FileTree := do
  let files ←
    match path.parent? with
    | some parent => files.makeDirectories parent
    | none => .ok files
  files.write path.text (Text.Utf8.encodeString text)

def output (c : CourseCommand) (report : Report) (path : Path) : String :=
  if c.json then report.json ++ "\n"
  else report.summary ++ "Report written to " ++ path.text ++ "\n"

-- Validates the course and writes its report. The files that come back hold the report.
def run (c : CourseCommand) (files : FileTree) (h : Host σ) (moment : Moment) (s : Session σ) :
    Finish × FileTree × Session σ :=
  match c.auditorAndRoot? files with
  | none => (.fault, files, s)
  | some (auditor, root) =>
    match auditor.validateCourse files h root c.options s with
    | (.error _, s) => (.fault, files, s)
    | (.ok scorecards, s) =>
      let config := auditor.config
      let report := Report.of config.moduleTitle c.options.mode moment scorecards
      let path := reportPath root config.reportPath
      let text := report.markdown config.problemThreshold
      match writeBelow files path text with
      | .error _ => (.fault, files, s)
      | .ok files =>
        (.ofOutcome report.isFullyPassing (c.output report path) (some (path, text)), files, s)

end CourseCommand

-- Carries out either command, chosen by the name of the program.
def runProgram (program : String) (arguments : List String) (files : FileTree) (h : Host σ)
    (moment : Moment) (s : Session σ) : Finish × FileTree × Session σ :=
  if program = PatternCommand.programName then
    match PatternCommand.parse arguments with
    | .error r => (.ofRefusal program r, files, s)
    | .ok c =>
      let (finish, s) := c.run files h s
      (finish, files, s)
  else
    match CourseCommand.parse arguments with
    | .error r => (.ofRefusal program r, files, s)
    | .ok c => c.run files h moment s

end CourseAudit.CommandLine
