import CourseAudit.Proofs.Exchanges

/-!
Which checks a scorecard holds. The answers of the host decide how a check ends, but not whether it
is there or where it stands.
-/
namespace CourseAudit

theorem Artifacts.presences_names (a : Artifacts) :
    a.presences.map (·.name) = ["discover:vulnerable", "discover:secure"] := by
  have hn (role : Role) : (a.presence role).name = "discover:" ++ role.text := by
    rw [presence]
    split <;> rfl
  simp only [presences, List.map_cons, List.map_nil, hn]
  rfl

theorem Documentation.check_name (files : FileTree) (documentation : Option Path) :
    (Documentation.check files documentation).name = "documentation" := by
  have hn (name bytes) : (checkBytes name bytes).name = "documentation" := by
    rw [checkBytes]
    split <;> rfl
  cases documentation
  case none => rfl
  case some path =>
    rw [check]
    split
    · rfl
    · exact hn _ _

namespace Auditor
namespace Bench

variable {b : Bench} {number : Nat} {events : List Event} {results : List CheckResult}

-- The results of a step have the names that the step announces, however its tools answer.
theorem StepRecords.names_eq {step : Step} (h : b.StepRecords number step events (.ok results)) :
    results.map (·.name) = step.names := by
  cases h
  case compile h => exact congrArg ([·]) h.name_eq
  case skipCompile => rfl
  case sanitize h => exact congrArg ([·]) h.name_eq
  case review => rfl
  case analyze subjects _ _ h =>
    induction subjects generalizing results ‹List Event› <;> cases h
    case nil => rfl
    case cons hi _ _ _ _ h hs =>
      rw [List.map_cons, hi hs, h.name_eq]
      rfl

theorem StepsRecord.names_eq {steps : List Step}
    (h : b.StepsRecord number steps events (.ok results)) :
    results.map (·.name) = steps.flatMap Step.names := by
  obtain ⟨parts, h, rfl⟩ := h
  induction steps generalizing number events parts <;> cases h
  case nil => rfl
  case cons hi _ _ _ _ h hs =>
    rw [List.flatten_cons, List.map_append, List.flatMap_cons, hi _ hs, h.names_eq]

end Bench

variable (v : Auditor)

-- Every source is compiled.
def compileNames (sources : List Artifact) : List String :=
  sources.map fun a => "compile:" ++ a.fileName

-- A source is run under every sanitizer of its module that the contract applies to its role. An
-- exploit is reviewed by hand after that.
def sanitizeNames (module : String) (a : Artifact) : List String :=
  ([Tool.addressSanitizer, .threadSanitizer, .undefinedSanitizer].filter fun tool =>
      (tool = .threadSanitizer → v.config.isConcurrencyModule module) ∧
        v.contract.expected a.role tool ≠ .notApplicable).map
      (fun tool => tool.shortName ++ ":" ++ a.fileName)
    ++ if a.role = .exploit then ["exploit-manual-review:" ++ a.fileName] else []

-- An analyzer reads every source that the contract applies it to.
def analyzeNames (sources : List Artifact) (analyzer : String) : List String :=
  (sources.filter fun a => v.contract.expected a.role (.analyzer analyzer) ≠ .notApplicable).map
    fun a => analyzer ++ ":" ++ a.fileName

-- The names of all checks of a pattern, in the order of its results.
def checkNames (options : Options) (module : String) (sources : List Artifact) : List String :=
  ["discover:vulnerable", "discover:secure"]
    ++ (if options.skipBuild then []
        else compileNames sources
          ++ if options.mode = .full then
              sources.flatMap (v.sanitizeNames module)
                ++ v.config.staticAnalyzers.flatMap (v.analyzeNames sources)
            else [])
    ++ ["documentation"]

theorem names_quickSteps (sources : List Artifact) :
    (v.quickSteps sources).flatMap Step.names = compileNames sources := by
  induction sources
  case nil => rfl
  case cons a rest hi =>
    simp only [quickSteps, compileNames, List.map_cons, List.flatMap_cons] at hi ⊢
    rw [hi, compileStep]
    split <;> rfl

theorem sanitizersFor_eq (module : String) :
    v.sanitizersFor module =
      [Tool.addressSanitizer, .threadSanitizer, .undefinedSanitizer].filter fun tool =>
        tool = .threadSanitizer → v.config.isConcurrencyModule module := by
  rw [sanitizersFor]
  split <;> simp_all

theorem names_sanitizeSteps (module : String) (a : Artifact) :
    (v.sanitizeSteps (v.sanitizersFor module) a).flatMap Step.names =
      v.sanitizeNames module a := by
  have hn (s : Subject) (tool : Tool) :
      (Step.sanitize s tool).names = [tool.shortName ++ ":" ++ s.artifact.fileName] := rfl
  simp only [sanitizeSteps, sanitizeNames, List.flatMap_append, sanitizersFor_eq]
  congr 1
  case e_a =>
    simp only [List.filter_map, List.flatMap_map, List.filter_filter, hn, ← List.map_eq_flatMap,
      subject, Function.comp_def, decide_not, Bool.decide_and, Bool.and_comm]
  case e_a => split <;> rfl

theorem names_analyzeStep (sources : List Artifact) (analyzer : String) :
    (v.analyzeStep sources analyzer).names = v.analyzeNames sources analyzer := by
  simp only [analyzeStep, analyzeNames, Step.names, subjects, List.filter_map, List.map_map]
  rfl

theorem names_steps (mode : Mode) (module : String) (sources : List Artifact) :
    (v.steps mode module sources).flatMap Step.names =
      compileNames sources
        ++ if mode = .full then
            sources.flatMap (v.sanitizeNames module)
              ++ v.config.staticAnalyzers.flatMap (v.analyzeNames sources)
          else [] := by
  cases mode <;> simp only [steps, List.flatMap_append, names_quickSteps]
  case quick => simp
  case full =>
    simp [fullSteps, List.flatMap_assoc, names_sanitizeSteps, List.flatMap_map, names_analyzeStep]

end Auditor

namespace Sample

-- A pattern with a source of each role and with documentation.
def files : FileTree where
  root := .directory [("07-concurrency", .directory [("lesson_7_1_queue", .directory [
    ("README.md", .file (Text.Utf8.encodeString "CWE-362") false),
    ("queue_exploits.cpp", .file [] false),
    ("queue_vulnerabilities.cpp", .file [] false),
    ("secure_queue_alternatives.cpp", .file [] false)])])]
  cwd := []

def directory : Path := ⟨"/07-concurrency/lesson_7_1_queue"⟩

def auditor : Auditor := ⟨.standard, .standard, .standard⟩

def artifacts : Artifacts where
  sources := [
    ⟨.vulnerable, directory.join "queue_vulnerabilities.cpp"⟩,
    ⟨.secure, directory.join "secure_queue_alternatives.cpp"⟩,
    ⟨.exploit, directory.join "queue_exploits.cpp"⟩]
  documentation := some (directory.join "README.md")

theorem discover_eq : Artifacts.discover files directory = .ok artifacts := by
  have hl : files.list directory = .ok [⟨"README.md", .file⟩, ⟨"queue_exploits.cpp", .file⟩,
      ⟨"queue_vulnerabilities.cpp", .file⟩, ⟨"secure_queue_alternatives.cpp", .file⟩] :=
    congrArg Except.ok (List.mergeSort_of_pairwise (by decide +kernel))
  rw [Artifacts.discover, hl]
  rfl

-- A machine on which hardly anything works.
def brokenHost : Host Unit where
  isAvailable program _ := (program ≠ "cppcheck", ())
  invoke i _ :=
    match i.tool with
    | .compiler => (.ran ⟨some 0, "", false⟩, ())
    | .analyzer name => (.failed (.notFound name), ())
    | .addressSanitizer => (.ran ⟨none, "", true⟩, ())
    | _ => (.failed (.wait i.program []), ())
  openBuild _ := (.ok ⟨"/tmp/build"⟩, ())
  closeBuild _ _ := ()

theorem validate_isOk :
    (auditor.validate files brokenHost directory ⟨.full, false⟩ (.initial ())).1.isOk = true := by
  rw [Auditor.validate_of_discover discover_eq rfl]
  decide +kernel

end Sample

namespace Auditor

variable {v : Auditor} {σ : Type} {files : FileTree} {host : Host σ} {directory : Path}
variable {options : Options}

-- The names of a scorecard follow from the sources of the pattern, the contract and the settings.
-- No answer of the host adds a check, takes one away or moves one.
theorem result_names_eq {s : Session σ} {card : Scorecard}
    (hv : (v.validate files host directory options s).1 = .ok card) :
    ∃ artifacts, Artifacts.discover files directory = .ok artifacts ∧
      card.results.map (·.name) =
        v.checkNames options (Course.moduleName directory) artifacts.sources := by
  have ⟨artifacts, results, hd, hc, h⟩ := validate_ok hv
  refine ⟨artifacts, hd, ?_⟩
  simp only [hc, scorecard, checkNames, List.map_append, artifacts.presences_names,
    Documentation.check_name, List.map_singleton]
  congr 2
  rcases h with ⟨ho, rfl⟩ | ⟨ho, _, _, _, _, _, hb⟩
  case inl => simp [ho]
  case inr =>
    cases hb
    case opened hs => rw [hs.names_eq, names_steps, ho]; rfl

end Auditor

namespace Sample

theorem result_names_eq_of_broken_tools :
    ∃ card : Scorecard,
      (auditor.validate files brokenHost directory ⟨.full, false⟩ (.initial ())).1 = .ok card ∧
      card.results.map (·.name) = [
        "discover:vulnerable", "discover:secure",
        "compile:queue_vulnerabilities.cpp", "compile:secure_queue_alternatives.cpp",
        "compile:queue_exploits.cpp",
        "asan:queue_vulnerabilities.cpp", "tsan:queue_vulnerabilities.cpp",
        "asan:secure_queue_alternatives.cpp", "tsan:secure_queue_alternatives.cpp",
        "ubsan:secure_queue_alternatives.cpp", "exploit-manual-review:queue_exploits.cpp",
        "cppcheck:secure_queue_alternatives.cpp", "clang-tidy:secure_queue_alternatives.cpp",
        "documentation"] := by
  rcases hv : (auditor.validate files brokenHost directory ⟨.full, false⟩ (.initial ())).1
    with e | card
  case error => simpa [hv, Except.isOk, Except.toBool] using validate_isOk
  case ok =>
    have ⟨artifacts', hd, hn⟩ := Auditor.result_names_eq hv
    cases discover_eq.symm.trans hd
    exact ⟨card, rfl, hn.trans (by decide +kernel)⟩

end Sample
end CourseAudit
