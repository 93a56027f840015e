import CourseAudit.Audit.Batch
import CourseAudit.Proofs.Exchanges

/-!
The validation of a course as a list of visits, one to each pattern. A visit keeps what was
exchanged with the host and how the validation of the pattern ended. Main statement:
`Auditor.validateCourse_visits`.
-/
namespace CourseAudit

variable {σ : Type}

structure Visit where
  directory : Path
  events    : List Event
  result    : Except Stop Scorecard

namespace Visit

def card (w : Visit) : Scorecard :=
  Auditor.scorecardOf w.directory w.result

-- The sources of a pattern whose validation came to its end.
def sources? (files : FileTree) (w : Visit) : Option (List Artifact) :=
  match w.result, Artifacts.discover files w.directory with
  | .ok _, .ok artifacts => some artifacts.sources
  | _, _ => none

end Visit

namespace Auditor

variable (v : Auditor) (files : FileTree) (h : Host σ) (options : Options)

def visits : List Path → Session σ → List Visit
  | [], _ => []
  | directory :: rest, s =>
    let (result, t) := v.validate files h directory options s
    ⟨directory, t.journal.drop s.journal.length, result⟩ :: visits rest t

-- The visits of a course, by what a validation of all its patterns starts with and leaves behind.
structure Visited (patterns : List Path) (s t : Session σ) (cards : List Scorecard)
    (visits : List Visit) : Prop where
  directories : visits.map (·.directory) = patterns
  cards       : visits.map (·.card) = cards
  journal     : t.journal = s.journal ++ visits.flatMap (·.events)
  records     : ∀ w ∈ visits, ∃ known known',
    v.ValidateRecords files w.directory options known w.events known' w.result

variable {v files h options}

theorem visits_cons {directory : Path} {rest : List Path} {s : Session σ} {events : List Event}
    (he : (v.validate files h directory options s).2.journal = s.journal ++ events) :
    v.visits files h options (directory :: rest) s =
      ⟨directory, events, (v.validate files h directory options s).1⟩ ::
        v.visits files h options rest (v.validate files h directory options s).2 := by
  have hd : (v.validate files h directory options s).2.journal.drop s.journal.length = events := by
    rw [he, List.drop_left]
  rw [← hd]
  rfl

theorem validateAll_visits (patterns : List Path) (s : Session σ) :
    v.Visited files options patterns s (v.validateAll files h options patterns s).2
      (v.validateAll files h options patterns s).1 (v.visits files h options patterns s) := by
  induction patterns generalizing s
  case nil => exact ⟨rfl, rfl, (List.append_nil _).symm, fun _ hw => nomatch hw⟩
  case cons directory rest hi =>
    have ⟨events, he, hr⟩ := v.validate_records files h directory options s
    have hi := hi (v.validate files h directory options s).2
    rw [visits_cons he]
    constructor
    case directories => exact congrArg (directory :: ·) hi.directories
    case cards => exact congrArg (scorecardOf directory _ :: ·) hi.cards
    case journal =>
      refine hi.journal.trans ?_
      rw [he, List.append_assoc]
      rfl
    case records => exact List.forall_mem_cons.mpr ⟨⟨_, _, hr⟩, hi.records⟩

-- A course is validated in one visit to each of its patterns, and the scorecards and the journal
-- are those of the visits.
theorem validateCourse_visits {root : Path} {s t : Session σ} {cards : List Scorecard}
    (hv : v.validateCourse files h root options s = (.ok cards, t)) :
    ∃ patterns, Course.findPatterns files root = .ok patterns ∧
      v.Visited files options patterns s t cards (v.visits files h options patterns s) := by
  rw [validateCourse] at hv
  split at hv
  case h_1 => cases hv
  case h_2 patterns hp =>
    cases hv
    exact ⟨patterns, hp, validateAll_visits patterns s⟩

-- A visit to a pattern in which nothing is to be built is one without exchanges.
theorem ValidateRecords.events_eq_nil {directory : Path} {known known' : Option (Option UInt32)}
    {events : List Event} {result : Except Stop Scorecard}
    (h : v.ValidateRecords files directory options known events known' result)
    (ho : options.skipBuild = true) : events = [] := by
  cases h
  case undiscovered => rfl
  case skipped => rfl
  all_goals cases ho.symm.trans ‹options.skipBuild = false›

end Auditor
end CourseAudit
