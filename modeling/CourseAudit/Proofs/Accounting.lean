import CourseAudit.Proofs.Isolation

/-!
No pattern of a course is lost, and none passes without having been looked at. Every pattern gets
one scorecard on which something counts, however the validations before it ended. Main statement:
`validateCourse_covers`.
-/
namespace CourseAudit

variable {σ : Type}

-- A result of the given name that counts for or against its pattern.
structure CheckResult.Decides (r : CheckResult) (name : String) : Prop where
  name    : r.name = name
  outcome : r.outcome = .passed ∨ r.outcome = .failed

theorem CheckResult.Decides.isEvaluated {r : CheckResult} {name : String} (h : r.Decides name) :
    r.outcome.isEvaluated = true := by
  rcases h.outcome with ho | ho <;> rw [ho] <;> rfl

-- The scorecard is about the pattern at a path.
structure Scorecard.IsFor (card : Scorecard) (path : Path) : Prop where
  directory   : card.directory = path
  module      : card.module = Course.moduleName path
  patternName : card.patternName = Course.patternName path

-- What a validation leaves behind. All that is left of one that stops is the reason; one that comes
-- to its end tells first which sources there are and last what the documentation cites.
inductive Accounts : Except Stop Scorecard → Scorecard → Prop
  | stopped (e : Stop) {card : Scorecard} :
    card.results = [⟨"pattern-validation", .failed, e.message⟩] → Accounts (.error e) card
  | ended {card : Scorecard} {vulnerable secure documentation : CheckResult}
    (between : List CheckResult) :
    vulnerable.Decides "discover:vulnerable" → secure.Decides "discover:secure" →
    documentation.name = "documentation" →
    card.results = vulnerable :: secure :: between ++ [documentation] → Accounts (.ok card) card

theorem Artifacts.presence_decides (a : Artifacts) (role : Role) :
    (a.presence role).Decides ("discover:" ++ role.text) := by
  rw [presence]
  split
  case h_1 => exact ⟨rfl, .inr rfl⟩
  case h_2 => exact ⟨rfl, .inl rfl⟩

theorem Accounts.evaluatedCount_pos {r : Except Stop Scorecard} {card : Scorecard}
    (h : Accounts r card) : 0 < card.evaluatedCount := by
  rw [Scorecard.evaluatedCount, List.countP_pos_iff]
  cases h
  case stopped hr => exact ⟨_, hr ▸ List.mem_cons_self, rfl⟩
  case ended hv _ _ hr => exact ⟨_, hr ▸ List.mem_cons_self, hv.isEvaluated⟩

theorem Course.exists_findPatterns_eq_error_iff {files : FileTree} {root : Path} :
    (∃ f, findPatterns files root = .error f) ↔ ∃ e, files.list root = .error e := by
  rw [findPatterns]
  rcases files.list root with e | entries
  case error => exact iff_of_true ⟨_, rfl⟩ ⟨_, rfl⟩
  case ok =>
    refine iff_of_false ?_ ?_
    case refine_1 => rintro ⟨_, ⟨⟩⟩
    case refine_2 => rintro ⟨_, ⟨⟩⟩

namespace Auditor

variable {v : Auditor} {files : FileTree} {h : Host σ} {options : Options}

theorem scorecard_accounts (files : FileTree) (directory : Path) (artifacts : Artifacts)
    (built : List CheckResult) :
    Accounts (.ok (scorecard files directory artifacts built))
      (scorecard files directory artifacts built) :=
  .ended built (artifacts.presence_decides .vulnerable) (artifacts.presence_decides .secure)
    (Documentation.check_name ..) rfl

theorem validate_accounts (directory : Path) (s : Session σ) :
    Accounts (v.validate files h directory options s).1
      (scorecardOf directory (v.validate files h directory options s).1) := by
  rcases hr : (v.validate files h directory options s).1 with e | card
  case error => exact .stopped e rfl
  case ok =>
    obtain ⟨artifacts, built, _, rfl, _⟩ := validate_ok hr
    exact scorecard_accounts files directory artifacts built

theorem validate_isFor (directory : Path) (s : Session σ) :
    (scorecardOf directory (v.validate files h directory options s).1).IsFor directory := by
  rcases hr : (v.validate files h directory options s).1 with e | card
  case error => exact ⟨rfl, rfl, rfl⟩
  case ok =>
    obtain ⟨artifacts, built, _, rfl, _⟩ := validate_ok hr
    exact ⟨rfl, rfl, rfl⟩

-- The session in which a pattern is validated depends on the patterns before it, but that it is
-- validated does not.
theorem validateAll_covers (patterns : List Path) (s : Session σ) :
    List.Forall₂
      (fun directory card => card.IsFor directory ∧ 0 < card.evaluatedCount ∧
        ∃ t, Accounts (v.validate files h directory options t).1 card)
      patterns (v.validateAll files h options patterns s).1 := by
  induction patterns generalizing s
  case nil => exact .nil
  case cons directory rest hi =>
    have ha : Accounts (v.validate files h directory options s).1
        (scorecardOf directory (v.validate files h directory options s).1) :=
      validate_accounts directory s
    exact .cons ⟨validate_isFor directory s, ha.evaluatedCount_pos, s, ha⟩ (hi _)

-- A course is validated unless its root cannot be read. Then there is one scorecard for each of its
-- patterns, in their order, and on each of them something counts.
theorem validateCourse_covers (v : Auditor) (files : FileTree) (h : Host σ) (root : Path)
    (options : Options) (s : Session σ) :
    ((∃ f, (v.validateCourse files h root options s).1 = .error f) ↔
      ∃ e, files.list root = .error e) ∧
    ∀ cards, (v.validateCourse files h root options s).1 = .ok cards →
      ∃ patterns, Course.findPatterns files root = .ok patterns ∧
        List.Forall₂
          (fun directory card => card.IsFor directory ∧ 0 < card.evaluatedCount ∧
            ∃ t, Accounts (v.validate files h directory options t).1 card)
          patterns cards := by
  rw [← Course.exists_findPatterns_eq_error_iff, validateCourse]
  rcases Course.findPatterns files root with f | patterns
  case error =>
    refine ⟨iff_of_true ⟨f, rfl⟩ ⟨f, rfl⟩, ?_⟩
    rintro _ ⟨⟩
  case ok =>
    refine ⟨iff_of_false ?_ ?_, ?_⟩
    case refine_1 => rintro ⟨_, ⟨⟩⟩
    case refine_2 => rintro ⟨_, ⟨⟩⟩
    case refine_3 =>
      rintro _ ⟨⟩
      exact ⟨patterns, rfl, validateAll_covers patterns s⟩

end Auditor

namespace Sample

-- The validation of the first pattern breaks down.
theorem course_covered_of_fragile_tools :
    ∃ cards : List Scorecard,
      (auditor.validateCourse course fragileHost ⟨"/"⟩ ⟨.full, false⟩ (.initial 0)).1 =
        .ok cards ∧
      List.Forall₂ (fun directory card => card.IsFor directory ∧ 0 < card.evaluatedCount)
        [directory, pool] cards := by
  have ⟨he, hc⟩ :=
    auditor.validateCourse_covers course fragileHost ⟨"/"⟩ ⟨.full, false⟩ (.initial 0)
  rcases hr : (auditor.validateCourse course fragileHost ⟨"/"⟩ ⟨.full, false⟩ (.initial 0)).1
    with f | cards
  case error =>
    have ⟨e, hl⟩ := Course.exists_findPatterns_eq_error_iff.2 (he.1 ⟨f, hr⟩)
    cases findPatterns_course.symm.trans hl
  case ok =>
    have ⟨patterns, hp, hc⟩ := hc cards hr
    cases findPatterns_course.symm.trans hp
    exact ⟨cards, rfl, hc.imp fun _ _ hd => ⟨hd.1, hd.2.1⟩⟩

end Sample
end CourseAudit
