import CourseAudit.Path

/-!
The tools that check a source, the commands that start them, and what is known of a finished run.
-/
namespace CourseAudit

inductive Tool where
  | compiler
  | addressSanitizer
  | threadSanitizer
  | undefinedSanitizer
  | analyzer (name : String)
  deriving DecidableEq, Repr

-- A tool without the name of the analyzer.
inductive ToolClass where
  | compiler
  | addressSanitizer
  | threadSanitizer
  | undefinedSanitizer
  | analyzer
  deriving DecidableEq, Repr

namespace ToolClass

def all : List ToolClass :=
  [.compiler, .addressSanitizer, .threadSanitizer, .undefinedSanitizer, .analyzer]

end ToolClass

namespace Tool

def classOf : Tool → ToolClass
  | .compiler => .compiler
  | .addressSanitizer => .addressSanitizer
  | .threadSanitizer => .threadSanitizer
  | .undefinedSanitizer => .undefinedSanitizer
  | .analyzer _ => .analyzer

-- The key of the tool's signatures and the front of its check names.
def shortName : Tool → String
  | .compiler => "compile"
  | .addressSanitizer => "asan"
  | .threadSanitizer => "tsan"
  | .undefinedSanitizer => "ubsan"
  | .analyzer name => name

def displayName : Tool → String
  | .compiler => "compiler"
  | .addressSanitizer => "AddressSanitizer"
  | .threadSanitizer => "ThreadSanitizer"
  | .undefinedSanitizer => "UndefinedBehaviorSanitizer"
  | .analyzer name => name

-- What the compiler calls the sanitizer.
def sanitizerFlag? : Tool → Option String
  | .addressSanitizer => some "address"
  | .threadSanitizer => some "thread"
  | .undefinedSanitizer => some "undefined"
  | .compiler | .analyzer _ => none

def isSanitizer (t : Tool) : Bool :=
  t.sanitizerFlag?.isSome

end Tool

-- All that is needed to start a tool. There is always a time limit.
structure Invocation where
  tool : Tool
  program : String
  args : List String
  env : List (String × String)
  workingDir : Option Path
  timeoutMillis : Nat
  deriving DecidableEq, Repr

namespace Invocation

def start (tool : Tool) (program : String) (timeoutMillis : Nat) : Invocation :=
  ⟨tool, program, [], [], none, timeoutMillis⟩

def addArgs (i : Invocation) (args : List String) : Invocation :=
  { i with args := i.args ++ args }

def addEnv (i : Invocation) (key value : String) : Invocation :=
  { i with env := i.env ++ [(key, value)] }

def inDirectory (i : Invocation) (directory : Path) : Invocation :=
  { i with workingDir := some directory }

-- An argument with a blank is shown in quotes.
def shownArg (arg : String) : String :=
  if arg.toList.contains ' ' then "'" ++ arg ++ "'" else arg

-- The command as a user would type it.
def commandLine (i : Invocation) : String :=
  String.join (i.env.map fun (key, value) => key ++ "=" ++ value ++ " ") ++ i.program
    ++ String.join (i.args.map fun arg => " " ++ shownArg arg)

end Invocation

-- A finished run. Without an exit code the process was killed, be it for taking too long.
structure ToolRun where
  tool : Tool
  command : String
  exitCode : Option Int
  output : String
  timedOut : Bool
  deriving DecidableEq, Repr

namespace ToolRun

def exitedCleanly (r : ToolRun) : Bool :=
  !r.timedOut && r.exitCode = some 0

end ToolRun
end CourseAudit
