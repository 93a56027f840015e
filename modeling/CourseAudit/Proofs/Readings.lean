import CourseAudit.Contract

/-!
How a finished run is read, and what that is worth. A run that took too long says nothing; the exit
code decides about the compiler, and the known diagnostics of a tool decide about every other tool
before its exit code does. Main statement: `Classifier.classify_judged`.
-/
namespace CourseAudit

namespace VersionRange

-- A version that is not known is in every range.
def Allows (r : VersionRange) (major : Option UInt32) : Prop :=
  ∀ version, major = some version →
    (∀ least, r.lowest = some least → least ≤ version) ∧
    (∀ most, r.highest = some most → version ≤ most)

theorem contains_iff {r : VersionRange} {major : Option UInt32} :
    r.contains major = true ↔ r.Allows major := by
  cases major
  case none => exact iff_of_true rfl nofun
  case some version =>
    rcases r with ⟨_ | least, _ | most⟩ <;> simp [contains, Allows]

end VersionRange

namespace Classifier

section

variable (c : Classifier) (run : ToolRun)

-- The output of the run shows a diagnostic as the compiler at hand prints it.
structure Finds (s : Signature) : Prop where
  allowed : s.versions.Allows c.major
  shown   : s.isMatch run.output = true

-- The labels of those signatures that are found in the output of the run: one for each of them, in
-- their order.
inductive Labels : List Signature → List String → Prop
  | nil : Labels [] []
  | found {s : Signature} {rest : List Signature} {labels : List String} :
    c.Finds run s → Labels rest labels → Labels (s :: rest) (s.label :: labels)
  | missed {s : Signature} {rest : List Signature} {labels : List String} :
    ¬c.Finds run s → Labels rest labels → Labels (s :: rest) labels

-- The output shows a diagnostic of the tool.
def Diagnoses : Prop :=
  ∃ s ∈ c.table.signaturesFor run.tool, c.Finds run s

-- What a run is read as, with the reason for it.
inductive Reading : Verdict → Prop
  | cutOff {labels : List String} :
    run.timedOut = true → c.Labels run (c.table.signaturesFor run.tool) labels →
    Reading (.inconclusive "timed out" labels)
  | compiled :
    run.timedOut = false → run.tool = .compiler → run.exitCode = some 0 → Reading .clean
  | uncompiled (line : Option String) :
    run.timedOut = false → run.tool = .compiler → run.exitCode ≠ some 0 →
    Reading (.compileFailed run.exitCode line)
  | diagnosed {labels : List String} :
    run.timedOut = false → run.tool ≠ .compiler → c.Diagnoses run →
    c.Labels run (c.table.signaturesFor run.tool) labels → Reading (.defect labels)
  | unremarkable :
    run.timedOut = false → run.tool ≠ .compiler → ¬c.Diagnoses run → run.exitCode = some 0 →
    Reading .clean
  | unexplained (reason : String) :
    run.timedOut = false → run.tool ≠ .compiler → ¬c.Diagnoses run → run.exitCode ≠ some 0 →
    Reading (.inconclusive reason [])

end

variable {c : Classifier} {run : ToolRun}

theorem finds_iff {s : Signature} :
    (s.isMatch run.output && s.appliesTo c.major) = true ↔ c.Finds run s := by
  rw [Bool.and_eq_true, Signature.appliesTo, VersionRange.contains_iff]
  exact ⟨fun h => ⟨h.2, h.1⟩, fun h => ⟨h.shown, h.allowed⟩⟩

-- By induction on the signatures.
theorem labels_matchedLabels (c : Classifier) (run : ToolRun) (signatures : List Signature) :
    c.Labels run signatures
      (matchedLabels (signatures.filter (·.appliesTo c.major)) run.output) := by
  rw [matchedLabels, List.filter_filter]
  induction signatures
  case nil => exact .nil
  case cons s rest hi =>
    rw [List.filter_cons]
    split
    case isTrue hf => exact .found (finds_iff.mp hf) hi
    case isFalse hf => exact .missed (mt finds_iff.mpr hf) hi

theorem Labels.eq_nil_iff {signatures : List Signature} {labels : List String}
    (h : c.Labels run signatures labels) : labels = [] ↔ ¬∃ s ∈ signatures, c.Finds run s := by
  induction h
  case nil => simp
  case found hf _ _ => simp [hf]
  case missed hf _ hi => simp [hf, hi]

theorem withoutDiagnostic_of_ne {code : Option Int} (h : code ≠ some 0) :
    ∃ reason, withoutDiagnostic code = .inconclusive reason [] := by
  rw [withoutDiagnostic.eq_def]
  split
  case h_1 => exact (h rfl).elim
  case h_2 => exact ⟨_, rfl⟩
  case h_3 => exact ⟨_, rfl⟩

-- Every run is read for one of the six reasons.
theorem classify_reading (c : Classifier) (run : ToolRun) : c.Reading run (c.classify run) := by
  have hl : c.Labels run (c.table.signaturesFor run.tool)
    (matchedLabels (c.applicable run.tool) run.output) := c.labels_matchedLabels run _
  rw [classify]
  cases ht : run.timedOut
  case true => exact .cutOff ht hl
  case false =>
    rw [if_neg Bool.false_ne_true]
    split
    case isTrue hc =>
      split
      case isTrue he => exact .compiled ht hc he
      case isFalse he => exact .uncompiled _ ht hc he
    case isFalse hc =>
      split
      case h_1 hm =>
        have hd := hl.eq_nil_iff.mp hm
        by_cases he : run.exitCode = some 0
        case pos => rw [he]; exact .unremarkable ht hc hd he
        case neg =>
          have ⟨reason, hr⟩ := withoutDiagnostic_of_ne he
          rw [hr]
          exact .unexplained reason ht hc hd he
      case h_2 hm =>
        have hd := Classical.not_not.mp <| mt hl.eq_nil_iff.mpr hm
        exact .diagnosed ht hc hd hl

end Classifier

namespace Expected

variable {expected : Expected} {verdict : Verdict}

theorem judge_passed_iff :
    (expected.judge verdict).outcome = .passed ↔
      expected = .mustBeClean ∧ verdict = .clean ∨
        expected = .mustDetect ∧ ∃ labels, verdict = .defect labels := by
  cases verdict
  case inconclusive reason labels => cases expected <;> cases labels <;> simp [judge]
  all_goals cases expected <;> simp [judge]

theorem judge_inconclusive_iff (h : expected ≠ .notApplicable) :
    (expected.judge verdict).outcome = .inconclusive ↔
      ∃ reason labels, verdict = .inconclusive reason labels := by
  cases verdict
  case inconclusive reason labels => cases expected <;> cases labels <;> simp [judge] at h ⊢
  all_goals cases expected <;> simp [judge] at h ⊢

-- There is no fourth outcome if something is expected.
theorem judge_failed_iff (h : expected ≠ .notApplicable) :
    (expected.judge verdict).outcome = .failed ↔
      (expected.judge verdict).outcome ≠ .passed ∧
        (expected.judge verdict).outcome ≠ .inconclusive := by
  cases verdict
  case inconclusive reason labels => cases expected <;> cases labels <;> simp [judge] at h ⊢
  all_goals cases expected <;> simp [judge] at h ⊢

end Expected

namespace Classifier

namespace Reading

variable {c : Classifier} {run : ToolRun} {verdict : Verdict}

theorem eq_clean_iff (h : c.Reading run verdict) :
    verdict = .clean ↔ run.timedOut = false ∧ run.exitCode = some 0 ∧
      (run.tool ≠ .compiler → ¬c.Diagnoses run) := by
  cases h
  case cutOff ht _ => simp [ht]
  case compiled ht hc he => simp [ht, hc, he]
  case uncompiled ht hc he => simp [he]
  case diagnosed ht hc hd _ => simp [hc, hd]
  case unremarkable ht hc hd he => simp [ht, hd, he]
  case unexplained ht hc hd he => simp [he]

theorem exists_eq_defect_iff (h : c.Reading run verdict) :
    (∃ labels, verdict = .defect labels) ↔
      run.timedOut = false ∧ run.tool ≠ .compiler ∧ c.Diagnoses run := by
  cases h
  case cutOff ht _ => simp [ht]
  case compiled ht hc he => simp [hc]
  case uncompiled ht hc he => simp [hc]
  case diagnosed ht hc hd _ => simp [ht, hc, hd]
  case unremarkable ht hc hd he => simp [hd]
  case unexplained ht hc hd he => simp [hd]

theorem exists_eq_inconclusive_iff (h : c.Reading run verdict) :
    (∃ reason labels, verdict = .inconclusive reason labels) ↔
      run.timedOut = true ∨ run.tool ≠ .compiler ∧ ¬c.Diagnoses run ∧ run.exitCode ≠ some 0 := by
  cases h
  case cutOff ht _ => simp [ht]
  case compiled ht hc he => simp [ht, hc]
  case uncompiled ht hc he => simp [ht, hc]
  case diagnosed ht hc hd _ => simp [ht, hd]
  case unremarkable ht hc hd he => simp [ht, he]
  case unexplained ht hc hd he => simp [hc, hd, he]

theorem labels_of_defect {labels : List String} (h : c.Reading run (.defect labels)) :
    c.Labels run (c.table.signaturesFor run.tool) labels := by
  cases h
  case diagnosed hl => exact hl

theorem exists_labels_of_timedOut (h : c.Reading run verdict) (ht : run.timedOut = true) :
    ∃ reason labels, verdict = .inconclusive reason labels ∧
      c.Labels run (c.table.signaturesFor run.tool) labels := by
  cases h
  case cutOff labels _ hl => exact ⟨_, labels, rfl, hl⟩
  all_goals cases ht.symm.trans ‹run.timedOut = false›

end Reading

-- What a run is worth, in terms of the run and of the diagnostics that are known for its tool.
structure Judged (c : Classifier) (run : ToolRun) : Prop where
  clean        : (Expected.mustBeClean.judge (c.classify run)).outcome = .passed ↔
    run.timedOut = false ∧ run.exitCode = some 0 ∧ (run.tool ≠ .compiler → ¬c.Diagnoses run)
  -- Whatever the exit code is.
  detected     : (Expected.mustDetect.judge (c.classify run)).outcome = .passed ↔
    run.timedOut = false ∧ run.tool ≠ .compiler ∧ c.Diagnoses run
  inconclusive : ∀ expected : Expected, expected ≠ .notApplicable →
    ((expected.judge (c.classify run)).outcome = .inconclusive ↔
      run.timedOut = true ∨
        run.tool ≠ .compiler ∧ ¬c.Diagnoses run ∧ run.exitCode ≠ some 0)
  failed       : ∀ expected : Expected, expected ≠ .notApplicable →
    ((expected.judge (c.classify run)).outcome = .failed ↔
      (expected.judge (c.classify run)).outcome ≠ .passed ∧
        (expected.judge (c.classify run)).outcome ≠ .inconclusive)
  -- What is expected makes a difference.
  opposed      : ¬((Expected.mustBeClean.judge (c.classify run)).outcome = .passed ∧
    (Expected.mustDetect.judge (c.classify run)).outcome = .passed)
  skipped      : (Expected.notApplicable.judge (c.classify run)).outcome = .skipped
  defects      : ∀ labels, c.classify run = .defect labels →
    c.Labels run (c.table.signaturesFor run.tool) labels
  -- A run that took too long tells what it has shown so far.
  cutOff       : run.timedOut = true → ∃ reason labels,
    c.classify run = .inconclusive reason labels ∧
      c.Labels run (c.table.signaturesFor run.tool) labels

-- What a run is worth follows from the reason for which it is read as it is.
theorem classify_judged (c : Classifier) (run : ToolRun) : c.Judged run := by
  have hr := c.classify_reading run
  have hc : (Expected.mustBeClean.judge (c.classify run)).outcome = .passed ↔
      c.classify run = .clean := by simp [Expected.judge_passed_iff]
  have hd : (Expected.mustDetect.judge (c.classify run)).outcome = .passed ↔
      ∃ labels, c.classify run = .defect labels := by simp [Expected.judge_passed_iff]
  constructor
  case clean => exact hc.trans hr.eq_clean_iff
  case detected => exact hd.trans hr.exists_eq_defect_iff
  case inconclusive =>
    exact fun _ h => (Expected.judge_inconclusive_iff h).trans hr.exists_eq_inconclusive_iff
  case failed => exact fun _ h => Expected.judge_failed_iff h
  case opposed =>
    rintro ⟨h, h'⟩
    have ⟨labels, h'⟩ := hd.mp h'
    cases (hc.mp h).symm.trans h'
  case skipped => rfl
  case defects =>
    intro labels hl
    rw [hl] at hr
    exact hr.labels_of_defect
  case cutOff => exact hr.exists_labels_of_timedOut

end Classifier
end CourseAudit
