import CourseAudit.Proofs.Analyses
import CourseAudit.Proofs.Discovery
import CourseAudit.Proofs.Isolation

/-!
The recommendations of a report name what really happened in the validations that it sums up: so
many patterns lack a source, so many checks were not made because an analyzer was missing. Main
statement: `Auditor.validateCourse_recommends`.
-/
namespace CourseAudit

open Report (isMissingSource isMissingAnalyzer Topic)
open Scorecard (resultsOf countP_resultsOf)

-- Sources are found at different paths.
theorem Artifacts.nodup_paths {t : SoundTree} {directory : Path} {artifacts : Artifacts}
    (h : discover t directory = .ok artifacts) : (artifacts.sources.map (·.path)).Nodup := by
  obtain ⟨_, _, sources, -, -, -, hw, rfl⟩ := exists_sources h
  have hp : (sources.map (·.path)).Nodup := by
    refine List.pairwise_map.mpr <| hw.imp fun {a b} hab he => ?_
    have hway : way directory a = way directory b := by rw [way, he, way]
    rw [Precedes, hway] at hab
    exact List.lt_irrefl _ hab
  refine (nodup_byRole (hw.imp Precedes.ne)).map_on fun a ha b hb he => ?_
  exact List.inj_on_of_nodup_map hp (mem_byRole.mp ha) (mem_byRole.mp hb) he

namespace Scorecard

theorem any_isMissingSource_fault (name module : String) (directory : Path) (message : String) :
    (fault name module directory message).results.any isMissingSource = false := by
  have hn : "discover:".toList.isPrefixOf faultCheckName.toList = false := by
    rw [faultCheckName, String.toList_ofList, String.toList_ofList]
    decide
  have hr {r : CheckResult} (h : r.name = faultCheckName) : isMissingSource r = false :=
    isMissingSource_eq_false (h ▸ hn)
  rw [fault, List.any_cons, List.any_nil, hr rfl]
  rfl

end Scorecard

namespace Visit

variable (v : Auditor) (files : FileTree) (w : Visit)

def lacksSource : Bool :=
  (w.sources? files).any Auditor.lacksSource

-- How many checks by analyzers were not made in the visit.
def withheld : Nat :=
  ((w.sources? files).map fun sources => total (v.withheld sources) w.events).getD 0

def unmade : List (String × Artifact) :=
  ((w.sources? files).map (v.unmade · w.events)).getD []

-- What the scorecard of a visit tells of it.
structure Told : Prop where
  sources   : w.card.results.any isMissingSource = w.lacksSource files
  analyzers : w.card.results.countP isMissingAnalyzer = w.withheld v files
  unmade    : 0 < w.withheld v files ↔ w.unmade v files ≠ []
  counted   : files.root.Sound → w.withheld v files = (w.unmade v files).length

variable {v files w}

theorem told {options : Options} {known known' : Option (Option UInt32)}
    (ha : v.config.staticAnalyzers = Config.standard.staticAnalyzers)
    (h : v.ValidateRecords files w.directory options known w.events known' w.result) :
    w.Told v files := by
  rcases w with ⟨directory, events, e | card⟩
  case error =>
    exact ⟨Scorecard.any_isMissingSource_fault .., rfl, ⟨nofun, fun h => absurd rfl h⟩,
      fun _ => rfl⟩
  case ok =>
    have ⟨artifacts, hd, hs, hm⟩ := h.missing ha
    have ⟨artifacts', hd', hu, hn⟩ := h.cases_of_unmade
    obtain rfl := Except.ok.inj (hd.symm.trans hd')
    have hq : sources? files ⟨directory, events, .ok card⟩ = some artifacts.sources := by
      rw [sources?, hd]
    constructor
    case sources => rw [lacksSource, hq]; exact hs
    case analyzers => rw [withheld, hq]; exact hm
    case unmade => rw [withheld, Visit.unmade, hq]; exact hu
    case counted =>
      intro hf
      rw [withheld, Visit.unmade, hq]
      exact hn (ha ▸ by decide +kernel) (Artifacts.nodup_paths (t := ⟨files, hf⟩) hd)

end Visit

namespace Report

variable {r : Report}

theorem isFullyPassing_iff_counts :
    r.isFullyPassing = true ↔ r.count .failed = 0 ∧ r.count .inconclusive = 0 := by
  rw [isFullyPassing, Scorecard.all_isFullyPassing, count_eq, count_eq]
  simp only [List.all_eq_true, List.countP_eq_zero, decide_eq_true_eq, ne_eq,
    Outcome.counts?_eq_false_iff, not_or, forall_and]

-- Where nothing failed, no source is missing.
theorem missingSources_eq_zero (h : r.count .failed = 0) : r.missingSources = 0 := by
  rw [count_eq, List.countP_eq_zero] at h
  refine List.countP_eq_zero.mpr fun card hc hm => ?_
  obtain ⟨result, hr, hm⟩ := List.any_eq_true.mp hm
  exact h result (List.mem_flatMap.mpr ⟨card, hc, hr⟩) (Bool.and_eq_true_iff.mp hm).1

theorem nothing_mem_recommendations_iff_isFullyPassing :
    Topic.nothing ∈ r.recommendations ↔
      r.isFullyPassing = true ∧ r.count .manualReview = 0 ∧ r.missingAnalyzers = 0 := by
  rw [nothing_mem_recommendations_iff, isFullyPassing_iff_counts]
  constructor
  case mp => exact fun h => ⟨⟨h .failures, h .doubts⟩, h .reviews, h .analyzers⟩
  case mpr =>
    rintro ⟨⟨hf, hd⟩, hr, ha⟩ t
    cases t
    case sources => exact missingSources_eq_zero hf
    case failures => exact hf
    case doubts => exact hd
    case analyzers => exact ha
    case reviews => exact hr

-- What a report recommends, by the visits that it sums up and by the results of their scorecards.
structure Recommends (r : Report) (v : Auditor) (files : FileTree) (visits : List Visit) :
    Prop where
  shown     : ∀ threshold, r.ShowsAdvice threshold
  sources   : ∀ n, Topic.sources.line n ∈ r.recommendations ↔
    n = visits.countP (·.lacksSource files) ∧ 0 < n
  failures  : ∀ n, Topic.failures.line n ∈ r.recommendations ↔
    n = (resultsOf r.scorecards).countP (·.outcome = .failed) ∧ 0 < n
  doubts    : ∀ n, Topic.doubts.line n ∈ r.recommendations ↔
    n = (resultsOf r.scorecards).countP (·.outcome = .inconclusive) ∧ 0 < n
  analyzers : ∀ n, Topic.analyzers.line n ∈ r.recommendations ↔
    n = total (·.withheld v files) visits ∧ 0 < n
  -- The exchanges tell which checks these are, and each check counts once.
  unmade    : 0 < total (·.withheld v files) visits ↔ ∃ w ∈ visits, w.unmade v files ≠ []
  counted   : files.root.Sound →
    total (·.withheld v files) visits = total (fun w => (w.unmade v files).length) visits
  reviews   : ∀ n, Topic.reviews.line n ∈ r.recommendations ↔
    n = (resultsOf r.scorecards).countP (·.outcome = .manualReview) ∧ 0 < n
  nothing   : Topic.nothing ∈ r.recommendations ↔
    r.isFullyPassing = true ∧ (∀ result ∈ resultsOf r.scorecards, result.outcome ≠ .manualReview) ∧
      ∀ w ∈ visits, w.unmade v files = []

theorem recommends {v : Auditor} {files : FileTree} {visits : List Visit}
    (hr : r.scorecards = visits.map (·.card)) (hv : ∀ w ∈ visits, w.Told v files) :
    r.Recommends v files visits := by
  have hs : r.missingSources = visits.countP (·.lacksSource files) := by
    rw [missingSources, hr, List.countP_map]
    exact List.countP_congr fun w hw => by rw [Function.comp_apply, (hv w hw).sources]
  have ha : r.missingAnalyzers = total (·.withheld v files) visits := by
    rw [missingAnalyzers, hr, total_map]
    exact total_congr fun w hw => (hv w hw).analyzers
  have hu : 0 < total (·.withheld v files) visits ↔ ∃ w ∈ visits, w.unmade v files ≠ [] := by
    rw [total_pos_iff]
    exact exists_congr fun w => and_congr_right fun hw => (hv w hw).unmade
  constructor
  case shown => exact r.showsAdvice
  case sources => exact fun n => hs ▸ line_mem_recommendations_iff
  case failures => exact fun n => count_eq r .failed ▸ line_mem_recommendations_iff
  case doubts => exact fun n => count_eq r .inconclusive ▸ line_mem_recommendations_iff
  case analyzers => exact fun n => ha ▸ line_mem_recommendations_iff
  case unmade => exact hu
  case counted => exact fun hf => total_congr fun w hw => (hv w hw).counted hf
  case reviews => exact fun n => count_eq r .manualReview ▸ line_mem_recommendations_iff
  case nothing =>
    have hn : r.missingAnalyzers = 0 ↔ ∀ w ∈ visits, w.unmade v files = [] := by
      rw [ha, ← Nat.le_zero, ← Nat.not_lt, hu]
      simp only [not_exists, not_and, ne_eq, not_not]
    rw [nothing_mem_recommendations_iff_isFullyPassing, hn, count_eq, List.countP_eq_zero]
    simp only [decide_eq_true_eq, ne_eq]

end Report

namespace Auditor

variable {σ : Type} {v : Auditor} {files : FileTree} {h : Host σ} {options : Options}

-- The recommendations for a course name the causes, for every host, however the validations of the
-- patterns ended.
theorem validateCourse_recommends
    (ha : v.config.staticAnalyzers = Config.standard.staticAnalyzers)
    {root : Path} {s t : Session σ} {cards : List Scorecard}
    (hv : v.validateCourse files h root options s = (.ok cards, t)) (title : String → String)
    (moment : Moment) :
    ∃ patterns, Course.findPatterns files root = .ok patterns ∧
      v.Visited files options patterns s t cards (v.visits files h options patterns s) ∧
      (Report.of title options.mode moment cards).Recommends v files
        (v.visits files h options patterns s) := by
  have ⟨patterns, hp, hs⟩ := validateCourse_visits hv
  refine ⟨patterns, hp, hs, Report.recommends hs.cards.symm fun w hw => ?_⟩
  have ⟨_, _, hr⟩ := hs.records w hw
  exact Visit.told ha hr

end Auditor

namespace Sample

def queueSecure : Artifact := ⟨.secure, directory.join "secure_queue_alternatives.cpp"⟩

def poolVulnerable : Artifact := ⟨.vulnerable, pool.join "pool_vulnerabilities.cpp"⟩

theorem discover_queue : Artifacts.discover course directory = .ok ⟨[queueSecure], none⟩ := by
  have hl : course.list directory = .ok [⟨"secure_queue_alternatives.cpp", .file⟩] :=
    congrArg Except.ok (List.mergeSort_of_pairwise (List.pairwise_singleton ..))
  rw [Artifacts.discover, hl]
  rfl

theorem discover_pool : Artifacts.discover course pool = .ok ⟨[poolVulnerable], none⟩ := by
  have hl : course.list pool = .ok [⟨"pool_vulnerabilities.cpp", .file⟩] :=
    congrArg Except.ok (List.mergeSort_of_pairwise (List.pairwise_singleton ..))
  rw [Artifacts.discover, hl]
  rfl

-- A machine without the one analyzer, which breaks down when it runs the other.
def tornHost : Host Unit where
  isAvailable program _ := (program ≠ "cppcheck", ())
  invoke i _ :=
    match i.tool with
    | .analyzer _ => (.broke (some "out of memory"), ())
    | _ => (.ran ⟨some 0, "", false⟩, ())
  openBuild _ := (.ok ⟨"/tmp/build"⟩, ())
  closeBuild _ _ := ()

-- What comes of the two patterns, without looking for their sources.
def validateBoth {σ : Type} (h : Host σ) (s : Session σ) : List Scorecard × Session σ :=
  let (queued, s) :=
    (auditor.buildResults h (auditor.steps .full "07-concurrency" [queueSecure]) s).map
      (·.map (Auditor.scorecard course directory ⟨[queueSecure], none⟩)) id
  let (pooled, s) :=
    (auditor.buildResults h (auditor.steps .full "07-concurrency" [poolVulnerable]) s).map
      (·.map (Auditor.scorecard course pool ⟨[poolVulnerable], none⟩)) id
  ([Auditor.scorecardOf directory queued, Auditor.scorecardOf pool pooled], s)

theorem validateCourse_course {σ : Type} (h : Host σ) (s : Session σ) :
    auditor.validateCourse course h ⟨"/"⟩ ⟨.full, false⟩ s =
      (.ok (validateBoth h s).1, (validateBoth h s).2) := by
  have hq (s : Session σ) : auditor.validate course h directory ⟨.full, false⟩ s =
      (auditor.buildResults h (auditor.steps .full "07-concurrency" [queueSecure]) s).map
        (·.map (Auditor.scorecard course directory ⟨[queueSecure], none⟩)) id :=
    Auditor.validate_of_discover discover_queue rfl
  have hp (s : Session σ) : auditor.validate course h pool ⟨.full, false⟩ s =
      (auditor.buildResults h (auditor.steps .full "07-concurrency" [poolVulnerable]) s).map
        (·.map (Auditor.scorecard course pool ⟨[poolVulnerable], none⟩)) id :=
    Auditor.validate_of_discover discover_pool rfl
  rw [Auditor.validateCourse, findPatterns_course]
  simp only [Auditor.validateAll, hq, hp]
  rfl

-- Either pattern lacks a source. One of them should be read by two analyzers, and there are none.
theorem recommended_of_broken_tools :
    ∃ (cards : List Scorecard) (t : Session Unit) (visits : List Visit),
      auditor.validateCourse course brokenHost ⟨"/"⟩ ⟨.full, false⟩ (.initial ()) =
        (.ok cards, t) ∧
      (Report.of id .full ⟨0, 0⟩ cards).Recommends auditor course visits ∧
      visits.countP (·.lacksSource course) = 2 ∧
      total (fun w => (w.unmade auditor course).length) visits = 2 := by
  have hv := validateCourse_course brokenHost (.initial ())
  obtain ⟨_, -, -, hr⟩ := Auditor.validateCourse_recommends rfl hv id ⟨0, 0⟩
  let r := Report.of id .full ⟨0, 0⟩ (validateBoth brokenHost (.initial ())).1
  have ⟨hs, ha⟩ : r.missingSources = 2 ∧ r.missingAnalyzers = 2 := by decide +kernel
  have hls := ((hr.sources 2).mp (Report.line_mem_recommendations_iff.mpr ⟨hs.symm, by decide⟩)).1
  have hla := ((hr.analyzers 2).mp (Report.line_mem_recommendations_iff.mpr ⟨ha.symm, by decide⟩)).1
  exact ⟨_, _, _, hv, hr, hls.symm, (hr.counted soundCourse.sound).symm.trans hla.symm⟩

-- A source should be read by an analyzer that is not there, but nobody is told to install it: the
-- validation of the pattern breaks down later.
theorem withheld_check_not_recommended :
    ∃ (cards : List Scorecard) (t : Session Unit) (artifacts : Artifacts),
      auditor.validateCourse course tornHost ⟨"/"⟩ ⟨.full, false⟩ (.initial ()) = (.ok cards, t) ∧
      Artifacts.discover course directory = .ok artifacts ∧
      ("cppcheck", queueSecure) ∈ auditor.analyses artifacts.sources ∧
      .asked "cppcheck" false ∈ t.journal ∧
      (∀ i answer, .invoked i answer ∈ t.journal → i.tool ≠ .analyzer "cppcheck") ∧
      ∀ n, Topic.analyzers.line n ∉ (Report.of id .full ⟨0, 0⟩ cards).recommendations := by
  have hv := validateCourse_course tornHost (.initial ())
  let journal := (validateBoth tornHost (.initial ())).2.journal
  have ⟨hj, hi, ha⟩ : .asked "cppcheck" false ∈ journal ∧
      (∀ e ∈ journal, e.invocation?.any (·.1.tool = .analyzer "cppcheck") = false) ∧
      (Report.of id .full ⟨0, 0⟩ (validateBoth tornHost (.initial ())).1).missingAnalyzers = 0 := by
    decide +kernel
  refine ⟨_, _, _, hv, discover_queue, by decide +kernel, hj, fun i answer he => ?_, fun n hn => ?_⟩
  case refine_1 => exact of_decide_eq_false (hi _ he)
  case refine_2 =>
    have ⟨hn, hp⟩ := Report.line_mem_recommendations_iff.mp hn
    exact Nat.ne_of_gt hp (hn.trans ha)

end Sample
end CourseAudit
