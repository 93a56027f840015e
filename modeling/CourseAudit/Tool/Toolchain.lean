import CourseAudit.Config.Basic

/-!
The command lines for the compiler, for instrumented programs and for static analyzers.
-/
namespace CourseAudit.Toolchain

def millis (seconds : UInt64) : Nat := 1000 * seconds.toNat

def version (c : Config) : Invocation :=
  (Invocation.start .compiler c.compiler (millis c.compileTimeoutSecs)).addArgs ["--version"]

def instrumentation (sanitizer : Option Tool) : List String :=
  match sanitizer.bind Tool.sanitizerFlag? with
  | some flag => ["-g", "-O1", "-fno-omit-frame-pointer", "-fsanitize=" ++ flag]
  | none => []

-- Builds a source into a program, instrumented if a sanitizer is given.
def compile (c : Config) (source output : Path) (sanitizer : Option Tool) : Invocation :=
  (Invocation.start .compiler c.compiler (millis c.compileTimeoutSecs)).addArgs
    (["-std=" ++ c.std] ++ c.extraFlags ++ instrumentation sanitizer
      ++ ["-pthread", source.text, "-o", output.text])

def sanitizerOptions : Tool → Option (String × String)
  | .addressSanitizer => some ("ASAN_OPTIONS", "detect_leaks=1:detect_stack_use_after_return=1")
  | .threadSanitizer => some ("TSAN_OPTIONS", "second_deadlock_stack=1")
  | .undefinedSanitizer => some ("UBSAN_OPTIONS", "print_stacktrace=1")
  | .compiler | .analyzer _ => none

-- Runs an instrumented program in a directory.
def run (c : Config) (tool : Tool) (binary directory : Path) : Invocation :=
  let i := (Invocation.start tool binary.text (millis c.runTimeoutSecs)).inDirectory directory
  match sanitizerOptions tool with
  | some (key, value) => i.addEnv key value
  | none => i

-- Analyzers that are known get the flags that make them report line by line.
def analyzerArgs (c : Config) (analyzer : String) (source : Path) : List String :=
  match analyzer with
  | "cppcheck" =>
    ["--enable=warning,performance,portability", "--template=gcc", "--quiet", "--inline-suppr",
      "--std=" ++ c.std, source.text]
  | "clang-tidy" => ["--quiet", source.text, "--", "-std=" ++ c.std]
  | _ => [source.text]

def analyze (c : Config) (analyzer : String) (source : Path) : Invocation :=
  (Invocation.start (.analyzer analyzer) analyzer (millis c.analyzerTimeoutSecs)).addArgs
    (analyzerArgs c analyzer source)

end CourseAudit.Toolchain
