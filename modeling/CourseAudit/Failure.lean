import CourseAudit.Path

/-!
Why a validation cannot go on. A failure has a text of its own; what caused it is kept apart, from
the nearest cause to the farthest, so that a caller decides how much of it to show.
-/
namespace CourseAudit

-- A tool that could not be run at all.
inductive ToolFailure where
  | notFound (program : String)
  | spawn (program : String) (causes : List String)
  | wait (program : String) (causes : List String)
  deriving DecidableEq, Repr

inductive AuditFailure where
  | toolchainMissing (compiler : String)
  | directoryUnreadable (path : Path) (causes : List String)
  | buildDirectory (causes : List String)
  | patternNotFound (name : String) (root : Path)
  | courseRootNotFound
  | configuration (path : Path) (message : String)
  | tool (failure : ToolFailure)
  deriving DecidableEq, Repr

namespace ToolFailure

def message : ToolFailure → String
  | .notFound program => "Executable not found: '" ++ program ++ "'"
  | .spawn program _ => "Failed to start '" ++ program ++ "'"
  | .wait program _ => "Failed while waiting for '" ++ program ++ "' to exit"

def causes : ToolFailure → List String
  | .notFound _ => []
  | .spawn _ causes | .wait _ causes => causes

def code : ToolFailure → String
  | .notFound _ => "pattern_validator::tool::executable_not_found"
  | .spawn .. => "pattern_validator::tool::spawn"
  | .wait .. => "pattern_validator::tool::wait"

def help? : ToolFailure → Option String
  | .notFound _ => some "Install the tool or make sure it is on PATH"
  | _ => none

end ToolFailure

namespace AuditFailure

def message : AuditFailure → String
  | .toolchainMissing compiler => "Compiler '" ++ compiler ++ "' is not installed"
  | .directoryUnreadable path _ => "Could not read directory '" ++ path.text ++ "'"
  | .buildDirectory _ => "Could not create a temporary build directory"
  | .patternNotFound name root => "No pattern named '" ++ name ++ "' under '" ++ root.text ++ "'"
  | .courseRootNotFound => "Could not find the course root"
  | .configuration path message => "Invalid configuration in '" ++ path.text ++ "': " ++ message
  | .tool failure => failure.message

def causes : AuditFailure → List String
  | .directoryUnreadable _ causes | .buildDirectory causes => causes
  | .tool failure => failure.causes
  | _ => []

-- The failure and all that caused it, on one line.
def chain (f : AuditFailure) : String :=
  f.causes.foldl (fun text cause => text ++ ": " ++ cause) f.message

def code : AuditFailure → String
  | .toolchainMissing _ => "pattern_validator::toolchain_missing"
  | .directoryUnreadable .. => "pattern_validator::directory_unreadable"
  | .buildDirectory _ => "pattern_validator::temp_dir"
  | .patternNotFound .. => "pattern_validator::pattern_not_found"
  | .courseRootNotFound => "pattern_validator::course_root_not_found"
  | .configuration .. => "pattern_validator::config"
  | .tool failure => failure.code

def help? : AuditFailure → Option String
  | .toolchainMissing _ =>
    some "Install a C++ compiler, set `compiler` in pattern-validator.json5, or pass --compiler"
  | .buildDirectory _ => some "Check that the system temp directory exists and is writable"
  | .patternNotFound .. =>
    some ("Use a lesson directory name (lesson_3_1_singleton), its pattern suffix (singleton), "
      ++ "or a path")
  | .courseRootNotFound =>
    some "Run from inside the course, add a pattern-validator.json5 at its root, or pass --root"
  | .tool failure => failure.help?
  | _ => none

end AuditFailure
end CourseAudit
