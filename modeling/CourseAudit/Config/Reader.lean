import CourseAudit.Config.Basic
import CourseAudit.Value.Json5

/-!
Reading settings from data. Fields that are not known are ignored and missing ones have their
default, but a field of the wrong type or range, or one that is given twice, spoils the whole.
-/
namespace CourseAudit.Config

-- How a record may be written: by field names only, or also as an array in the order of the fields.
inductive RecordForm where
  | named
  | positional
  deriving DecidableEq, Repr

-- A record as it was written, by field name.
abbrev Fields := List (String × Value)

namespace Decode

def record? (form : RecordForm) (names : List String) : Value → Option Fields
  | .object fields =>
    let known := fields.filter (names.contains ·.1)
    if (known.map (·.1)).Nodup then some known else none
  | .array items =>
    if form = .positional ∧ items.length ≤ names.length then some (names.zip items) else none
  | _ => none

def string? : Value → Option String
  | .string s => some s
  | _ => none

def float? : Value → Option Float
  | .float x => some x
  | .integer n =>
    let x := Float.ofScientific n.natAbs false 0
    some (if n < 0 then -x else x)
  | _ => none

def nat? (bound : Nat) : Value → Option Nat
  | .integer n => if 0 ≤ n ∧ n < bound then some n.toNat else none
  | _ => none

def word32? (v : Value) : Option UInt32 :=
  (nat? UInt32.size v).map UInt32.ofNat

def word64? (v : Value) : Option UInt64 :=
  (nat? UInt64.size v).map UInt64.ofNat

def all? {α : Type} (item? : Value → Option α) : List Value → Option (List α)
  | [] => some []
  | v :: rest => do
    let x ← item? v
    let behind ← all? item? rest
    some (x :: behind)

def list? {α : Type} (item? : Value → Option α) : Value → Option (List α)
  | .array items => all? item? items
  | _ => none

def nullable? {α : Type} (item? : Value → Option α) : Value → Option (Option α)
  | .null => some none
  | v => (item? v).map some

def allFields? {α : Type} (item? : Value → Option α) : Fields → Option (List (String × α))
  | [] => some []
  | (k, v) :: rest => do
    let x ← item? v
    let behind ← allFields? item? rest
    some ((k, x) :: behind)

def map? {α : Type} (item? : Value → Option α) : Value → Option (SortedMap α)
  | .object fields => (allFields? item? fields).map .ofList
  | _ => none

-- A field, or a default if it is missing.
def field? {α : Type} (fields : Fields) (name : String) (item? : Value → Option α)
    (default : Option α) : Option α :=
  match fields.find? (·.1 = name) with
  | some (_, v) => item? v
  | none => default

-- A name out of a list of choices. A record with that one name and nothing in it counts as well.
def choice? {α : Type} (choices : List (String × α)) : Value → Option α
  | .string s => (choices.find? (·.1 = s)).map (·.2)
  | .object [(s, .null)] => (choices.find? (·.1 = s)).map (·.2)
  | _ => none

def roles : List (String × Role) :=
  [("vulnerable", .vulnerable), ("secure", .secure), ("exploit", .exploit)]

def toolClasses : List (String × ToolClass) := [
  ("compile", .compiler),
  ("address_sanitizer", .addressSanitizer),
  ("thread_sanitizer", .threadSanitizer),
  ("undefined_behavior_sanitizer", .undefinedSanitizer),
  ("static_analyzer", .analyzer)]

def expectations : List (String × Expected) :=
  [("must_detect", .mustDetect), ("must_be_clean", .mustBeClean),
    ("not_applicable", .notApplicable)]

def contractOverride? (form : RecordForm) (v : Value) : Option ContractOverride := do
  let fields ← record? form ["role", "tool", "expected"] v
  let role ← field? fields "role" (choice? roles) none
  let tool ← field? fields "tool" (choice? toolClasses) none
  let expected ← field? fields "expected" (choice? expectations) none
  some ⟨role, tool, expected⟩

def extraSignature? (form : RecordForm) (v : Value) : Option ExtraSignature := do
  let fields ← record? form ["label", "substring", "regex", "min_major", "max_major"] v
  let text (name : String) := field? fields name (nullable? string?) (some none)
  let major (name : String) := field? fields name (nullable? word32?) (some none)
  let label ← text "label"
  let substring ← text "substring"
  let regex ← text "regex"
  let minMajor ← major "min_major"
  let maxMajor ← major "max_major"
  some ⟨label, substring, regex, minMajor, maxMajor⟩

end Decode

open Decode

def fieldNames : List String := [
  "compiler", "std", "extra_flags", "compile_timeout_secs", "run_timeout_secs",
  "analyzer_timeout_secs", "static_analyzers", "concurrency_modules", "problem_threshold",
  "race_detection_attempts", "report_path", "module_titles", "extra_signatures",
  "contract_overrides"]

def ofValue? (form : RecordForm) (v : Value) : Option Config := do
  let fields ← record? form fieldNames v
  let text (name : String) (d : String) := field? fields name string? (some d)
  let texts (name : String) (d : List String) := field? fields name (list? string?) (some d)
  let seconds (name : String) (d : UInt64) := field? fields name word64? (some d)
  let compiler ← text "compiler" standard.compiler
  let std ← text "std" standard.std
  let extraFlags ← texts "extra_flags" standard.extraFlags
  let compileTimeoutSecs ← seconds "compile_timeout_secs" standard.compileTimeoutSecs
  let runTimeoutSecs ← seconds "run_timeout_secs" standard.runTimeoutSecs
  let analyzerTimeoutSecs ← seconds "analyzer_timeout_secs" standard.analyzerTimeoutSecs
  let staticAnalyzers ← texts "static_analyzers" standard.staticAnalyzers
  let concurrencyModules ← texts "concurrency_modules" standard.concurrencyModules
  let problemThreshold ← field? fields "problem_threshold" float? (some standard.problemThreshold)
  let raceDetectionAttempts ←
    field? fields "race_detection_attempts" word32? (some standard.raceDetectionAttempts)
  let reportPath ← text "report_path" standard.reportPath.text
  let moduleTitles ← field? fields "module_titles" (map? string?) (some standard.moduleTitles)
  let extraSignatures ←
    field? fields "extra_signatures" (map? (list? (extraSignature? form)))
      (some standard.extraSignatures)
  let contractOverrides ←
    field? fields "contract_overrides" (list? (contractOverride? form))
      (some standard.contractOverrides)
  some
    { compiler, std, extraFlags, compileTimeoutSecs, runTimeoutSecs, analyzerTimeoutSecs,
      staticAnalyzers, concurrencyModules, problemThreshold, raceDetectionAttempts,
      reportPath := ⟨reportPath⟩, moduleTitles, extraSignatures, contractOverrides }

-- Why a configuration file is refused.
inductive LoadFault where
  | unreadable (error : OsError)
  | notUtf8
  | malformed
  | signature (fault : SignatureFault)

def LoadFault.message : LoadFault → String
  | .unreadable error => error.message
  | .notUtf8 => "stream did not contain valid UTF-8"
  | .malformed => "<parse error>"
  | .signature fault => fault.message

def ofText (text : String) : Except LoadFault Config :=
  match (Value.Json5.parse? text).bind (ofValue? .named) with
  | none => .error .malformed
  | some c =>
    match c.signatureTable with
    | .ok _ => .ok c
    | .error fault => .error (.signature fault)

def ofBytes (bytes : Text.Utf8.Bytes) : Except LoadFault Config :=
  match Text.Utf8.decode? bytes with
  | none => .error .notUtf8
  | some text => ofText (String.ofList text)

-- A file is accepted only if its signatures make a table, so that no run stops halfway for them.
def load (t : FileTree) (path : Path) : Except AuditFailure Config :=
  let read : Except LoadFault Config :=
    match t.read path with
    | .ok bytes => ofBytes bytes
    | .error e => .error (.unreadable e)
  match read with
  | .ok c => .ok c
  | .error fault => .error (.configuration path fault.message)

-- The settings from a given file, from the file at the root if there is one, or the defaults.
def loadForRoot (t : FileTree) (root : Path) (given : Option Path) : Except AuditFailure Config :=
  match given with
  | some path => load t path
  | none =>
    let candidate := root.join Course.configFileName
    if t.isFile candidate then load t candidate else .ok standard

end CourseAudit.Config
