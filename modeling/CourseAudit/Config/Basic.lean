import CourseAudit.Config.SortedMap
import CourseAudit.Contract
import CourseAudit.Course.Search

/-!
The settings of a validation. Every setting has a default.
-/
namespace CourseAudit

-- A signature that a course adds. Either the substring or the pattern is given.
structure ExtraSignature where
  label : Option String
  substring : Option String
  regex : Option String
  minMajor : Option UInt32
  maxMajor : Option UInt32
  deriving DecidableEq, Repr

namespace ExtraSignature

inductive Fault where
  | both
  | neither
  | badPattern (pattern : String) (error : Regex.CompileError)

def Fault.message : Fault → String
  | .both => "set either `substring` or `regex`, not both"
  | .neither => "one of `substring` or `regex` is required"
  | .badPattern pattern error => error.message pattern

def versions (e : ExtraSignature) : VersionRange :=
  ⟨e.minMajor, e.maxMajor⟩

-- The label is the substring or the pattern if none is given.
def signature (e : ExtraSignature) : Except Fault Signature :=
  match e.substring, e.regex with
  | some text, none => .ok ⟨e.label.getD text, .substring text, e.versions⟩
  | none, some pattern =>
    match Regex.compile pattern with
    | .ok r => .ok ⟨e.label.getD pattern, .pattern r, e.versions⟩
    | .error error => .error (.badPattern pattern error)
  | some _, some _ => .error .both
  | none, none => .error .neither

def signatures : List ExtraSignature → Except Fault (List Signature)
  | [] => .ok []
  | e :: rest => do
    let s ← e.signature
    let behind ← signatures rest
    .ok (s :: behind)

end ExtraSignature

structure Config where
  compiler : String
  std : String
  extraFlags : List String
  compileTimeoutSecs : UInt64
  runTimeoutSecs : UInt64
  analyzerTimeoutSecs : UInt64
  staticAnalyzers : List String
  -- The modules whose patterns are checked for data races.
  concurrencyModules : List String
  -- The percentage below which a pattern is listed as a problem.
  problemThreshold : Float
  raceDetectionAttempts : UInt32
  reportPath : Path
  moduleTitles : SortedMap String
  extraSignatures : SortedMap (List ExtraSignature)
  contractOverrides : List ContractOverride

namespace Config

def standardTitles : SortedMap String := .ofList [
  ("01-basics", "C++ Basics"),
  ("02-principles", "Design Principles"),
  ("03-creational", "Creational Patterns"),
  ("04-structural", "Structural Patterns"),
  ("05-behavioral", "Behavioral Patterns"),
  ("06-modern-cpp", "Modern C++"),
  ("07-concurrency", "Concurrency Patterns"),
  ("08-high-load", "High-Load System Patterns"),
  ("09-performance", "Performance Patterns")]

def standard : Config where
  compiler := "g++"
  std := "c++20"
  extraFlags := []
  compileTimeoutSecs := 60
  runTimeoutSecs := 10
  analyzerTimeoutSecs := 60
  staticAnalyzers := ["cppcheck", "clang-tidy"]
  concurrencyModules := ["07-concurrency"]
  problemThreshold := 80.0
  raceDetectionAttempts := 1
  reportPath := ⟨"VALIDATION_REPORT.md"⟩
  moduleTitles := standardTitles
  extraSignatures := .empty
  contractOverrides := []

-- The title of a module, or its directory name if it has none.
def moduleTitle (c : Config) (module : String) : String :=
  (c.moduleTitles.find? module).getD module

def isConcurrencyModule (c : Config) (module : String) : Bool :=
  c.concurrencyModules.contains module

-- An entry of the extra signatures that makes no signature.
structure SignatureFault where
  key : String
  fault : ExtraSignature.Fault

def SignatureFault.message (f : SignatureFault) : String :=
  "extra_signatures." ++ f.key ++ ": " ++ f.fault.message

def addExtras (table : SignatureTable) :
    List (String × List ExtraSignature) → Except SignatureFault SignatureTable
  | [] => .ok table
  | (key, extras) :: rest =>
    match ExtraSignature.signatures extras with
    | .ok signatures => addExtras (table.register key signatures) rest
    | .error fault => .error ⟨key, fault⟩

-- The built-in signatures, and behind them those of the course.
def signatureTable (c : Config) : Except SignatureFault SignatureTable :=
  addExtras .standard c.extraSignatures.entries

def contract (c : Config) : Contract :=
  Contract.standard.overrideAll c.contractOverrides

end Config
end CourseAudit
