import CourseAudit.Proofs.Exchanges
import Mathlib.Data.List.Forall2

/-!
Texts that are the same but for the name of a build directory. Such a name is chosen anew for every
validation, so two validations can agree in this sense only. What is computed from a text is
followed through here: verdicts, judgements and results. Main statement:
`Classifier.classify_renamed`.
-/
namespace CourseAudit

-- Two texts with the names of two directories in the same places.
inductive Renamed (b b' : Path) : String → String → Prop
  | same (text) : Renamed b b' text text
  | directory : Renamed b b' b.text b'.text
  | file (name) : Renamed b b' (b.join name).text (b'.join name).text
  | append {s s' t t'} : Renamed b b' s s' → Renamed b b' t t' → Renamed b b' (s ++ t) (s' ++ t')

variable {b b' : Path}

-- Without another name there is no difference.
theorem Renamed.eq {s t : String} (h : Renamed b b s t) : s = t := by
  induction h
  case append hs ht => rw [hs, ht]
  all_goals rfl

theorem forall₂_renamed_refl (texts : List String) :
    List.Forall₂ (Renamed b b') texts texts :=
  List.forall₂_same.2 fun _ _ => .same _

namespace Verdict

inductive Renamed (b b' : Path) : Verdict → Verdict → Prop
  | same (verdict) : Renamed b b' verdict verdict
  | compileFailed (code) {line line'} :
    CourseAudit.Renamed b b' line line' →
    Renamed b b' (.compileFailed code (some line)) (.compileFailed code (some line'))

theorem Renamed.text {verdict verdict' : Verdict} (h : Renamed b b' verdict verdict') :
    CourseAudit.Renamed b b' verdict.text verdict'.text := by
  cases h
  case same => exact .same _
  case compileFailed h => exact .append (.same _) h

end Verdict

structure Judgement.Renamed (b b' : Path) (j j' : Judgement) : Prop where
  outcome : j.outcome = j'.outcome
  detail  : CourseAudit.Renamed b b' j.detail j'.detail

structure CheckResult.Renamed (b b' : Path) (r r' : CheckResult) : Prop where
  name    : r.name = r'.name
  outcome : r.outcome = r'.outcome
  detail  : CourseAudit.Renamed b b' r.detail r'.detail

structure Scorecard.Renamed (b b' : Path) (card card' : Scorecard) : Prop where
  patternName : card.patternName = card'.patternName
  module      : card.module = card'.module
  directory   : card.directory = card'.directory
  results     : List.Forall₂ (CheckResult.Renamed b b') card.results card'.results

theorem Judgement.Renamed.refl (j : Judgement) : Judgement.Renamed b b' j j :=
  ⟨rfl, .same _⟩

theorem CheckResult.Renamed.refl (r : CheckResult) : CheckResult.Renamed b b' r r :=
  ⟨rfl, rfl, .same _⟩

theorem CheckResult.Renamed.eq {r r' : CheckResult} (h : CheckResult.Renamed b b r r') :
    r = r' := by
  have ⟨hn, ho, hd⟩ := h
  cases r
  cases r'
  cases hn
  cases ho
  cases hd.eq
  rfl

theorem Judgement.Renamed.named {j j' : Judgement} (h : Judgement.Renamed b b' j j')
    (name : String) : CheckResult.Renamed b b' (j.named name) (j'.named name) :=
  ⟨rfl, h.outcome, h.detail⟩

theorem Expected.judge_renamed (expected : Expected) {verdict verdict' : Verdict}
    (h : Verdict.Renamed b b' verdict verdict') :
    Judgement.Renamed b b' (expected.judge verdict) (expected.judge verdict') := by
  cases h
  case same => exact .refl _
  case compileFailed h =>
    cases expected
    case notApplicable => exact .refl _
    all_goals exact ⟨rfl, .append (.same _) h⟩

-- The outputs of two runs that a classifier cannot tell apart: the signatures match the same of
-- their lines, and the same as a whole. A signature that matched the name of a directory, which is
-- chosen at random, would not do this.
structure ReadAlike (b b' : Path) (signatures : List Signature) (output output' : String) :
    Prop where
  renamed : Renamed b b' output output'
  matched : ∀ s ∈ signatures, s.isMatch output = s.isMatch output'
  lines   : List.Forall₂
    (fun line line' => (∀ s ∈ signatures, s.isMatch line = s.isMatch line') ∧
      Renamed b b' (Text.trimString line) (Text.trimString line'))
    (Text.linesOfString output) (Text.linesOfString output')

theorem ReadAlike.refl (signatures : List Signature) (output : String) :
    ReadAlike b b' signatures output output :=
  ⟨.same _, fun _ _ => rfl, List.forall₂_same.2 fun _ _ => ⟨fun _ _ => rfl, .same _⟩⟩

theorem ReadAlike.of_subset {signatures fewer : List Signature} {output output' : String}
    (h : ReadAlike b b' signatures output output') (hs : ∀ s ∈ fewer, s ∈ signatures) :
    ReadAlike b b' fewer output output' where
  renamed := h.renamed
  matched := fun s hm => h.matched s (hs s hm)
  lines   := h.lines.imp fun _ _ hl => ⟨fun s hm => hl.1 s (hs s hm), hl.2⟩

structure Reply.Renamed (b b' : Path) (signatures : List Signature) (r r' : Reply) : Prop where
  exitCode : r.exitCode = r'.exitCode
  output   : ReadAlike b b' signatures r.output r'.output
  timedOut : r.timedOut = r'.timedOut

structure ToolRun.Renamed (b b' : Path) (table : SignatureTable) (run run' : ToolRun) : Prop where
  tool     : run.tool = run'.tool
  exitCode : run.exitCode = run'.exitCode
  output   : ReadAlike b b' (table.signaturesFor run.tool) run.output run'.output
  timedOut : run.timedOut = run'.timedOut

theorem Reply.Renamed.toRun {table : SignatureTable} {i i' : Invocation} {r r' : Reply}
    (h : Reply.Renamed b b' (table.signaturesFor i.tool) r r') (hi : i.tool = i'.tool) :
    ToolRun.Renamed b b' table (r.toRun i) (r'.toRun i') :=
  ⟨hi, h.exitCode, h.output, h.timedOut⟩

inductive ToolFailure.Renamed (b b' : Path) : ToolFailure → ToolFailure → Prop
  | notFound {program program'} :
    CourseAudit.Renamed b b' program program' →
    Renamed b b' (.notFound program) (.notFound program')
  | spawn {program program' causes causes'} :
    CourseAudit.Renamed b b' program program' →
    List.Forall₂ (CourseAudit.Renamed b b') causes causes' →
    Renamed b b' (.spawn program causes) (.spawn program' causes')
  | wait {program program' causes causes'} :
    CourseAudit.Renamed b b' program program' →
    List.Forall₂ (CourseAudit.Renamed b b') causes causes' →
    Renamed b b' (.wait program causes) (.wait program' causes')

inductive Answer.Renamed (b b' : Path) (signatures : List Signature) : Answer → Answer → Prop
  | ran {r r'} : Reply.Renamed b b' signatures r r' → Renamed b b' signatures (.ran r) (.ran r')
  | failed {f f'} : ToolFailure.Renamed b b' f f' → Renamed b b' signatures (.failed f) (.failed f')
  | broke {message message'} :
    Option.Rel (CourseAudit.Renamed b b') message message' →
    Renamed b b' signatures (.broke message) (.broke message')

theorem Answer.Renamed.refl (signatures : List Signature) (answer : Answer) :
    Answer.Renamed b b' signatures answer answer := by
  cases answer
  case ran => exact .ran ⟨rfl, .refl .., rfl⟩
  case failed f =>
    refine .failed ?_
    cases f
    case notFound => exact .notFound (.same _)
    case spawn => exact .spawn (.same _) (forall₂_renamed_refl _)
    case wait => exact .wait (.same _) (forall₂_renamed_refl _)
  case broke message =>
    refine .broke ?_
    cases message <;> constructor
    exact .same _

-- Two invocations that name two directories for builds in the same places: an output in the
-- directory as the last argument, or a program in the directory that is run there.
inductive Invocation.Renamed (b b' : Path) : Invocation → Invocation → Prop
  | same (i) : Renamed b b' i i
  | output (i : Invocation) {name : String} :
    name.toList.head? ≠ some '/' →
    Renamed b b' (i.addArgs [(b.join name).text]) (i.addArgs [(b'.join name).text])
  | program (i : Invocation) {name : String} :
    name.toList.head? ≠ some '/' →
    Renamed b b' { i with program := (b.join name).text, workingDir := some b }
      { i with program := (b'.join name).text, workingDir := some b' }

theorem Invocation.Renamed.tool {i i' : Invocation} (h : Invocation.Renamed b b' i i') :
    i.tool = i'.tool := by
  cases h <;> rfl

theorem ToolFailure.Renamed.message {f f' : ToolFailure} (h : ToolFailure.Renamed b b' f f') :
    CourseAudit.Renamed b b' f.message f'.message := by
  cases h <;> exact .append (.append (.same _) ‹_›) (.same _)

theorem ToolFailure.Renamed.causes {f f' : ToolFailure} (h : ToolFailure.Renamed b b' f f') :
    List.Forall₂ (CourseAudit.Renamed b b') f.causes f'.causes := by
  cases h
  case notFound => exact .nil
  all_goals assumption

namespace Classifier

variable {signatures : List Signature} {output output' : String}

theorem matchedLabels_eq (h : ReadAlike b b' signatures output output') :
    matchedLabels signatures output = matchedLabels signatures output' := by
  rw [matchedLabels, matchedLabels, List.filter_congr h.matched]

theorem firstMatchingLine_renamed (h : ReadAlike b b' signatures output output') :
    Option.Rel (Renamed b b') (firstMatchingLine signatures output)
      (firstMatchingLine signatures output') := by
  rw [firstMatchingLine, firstMatchingLine]
  have hl := h.lines
  generalize Text.linesOfString output = lines, Text.linesOfString output' = lines' at hl
  induction hl
  case nil => exact .none
  case cons line line' rest rest' hl _ hi =>
    have hm : signatures.any (·.isMatch line) = signatures.any (·.isMatch line') := by
      rw [Bool.eq_iff_iff, List.any_eq_true, List.any_eq_true]
      exact exists_congr fun s => and_congr_right fun hs => by rw [hl.1 s hs]
    rw [List.find?_cons, List.find?_cons, ← hm]
    split
    case h_1 => exact .some hl.2
    case h_2 => exact hi

theorem compileFailed_renamed (code : Option Int) {line line' : Option String}
    (h : Option.Rel (Renamed b b') line line') :
    Verdict.Renamed b b' (.compileFailed code line) (.compileFailed code line') := by
  cases h
  case some h => exact .compileFailed code h
  case none => exact .same _

-- Runs that a classifier cannot tell apart have the same verdict.
theorem classify_renamed (c : Classifier) {run run' : ToolRun}
    (h : ToolRun.Renamed b b' c.table run run') :
    Verdict.Renamed b b' (c.classify run) (c.classify run') := by
  have ⟨ht, he, ho, hd⟩ := h
  replace ho : ReadAlike b b' (c.applicable run.tool) run.output run'.output :=
    ho.of_subset fun _ => List.mem_of_mem_filter
  have hl := matchedLabels_eq ho
  have hf := firstMatchingLine_renamed ho
  rcases run with ⟨tool, command, code, output, timedOut⟩
  rcases run' with ⟨tool', command', code', output', timedOut'⟩
  cases ht
  cases he
  cases hd
  simp only [classify, ← hl]
  by_cases hd : timedOut = true
  case pos => simpa only [if_pos hd] using .same _
  case neg =>
    rw [if_neg hd, if_neg hd]
    by_cases ht : tool = .compiler
    case neg => simpa only [if_neg ht] using .same _
    case pos =>
      rw [if_pos ht, if_pos ht]
      by_cases he : code = some 0
      case pos => simpa only [if_pos he] using .same _
      case neg =>
        rw [if_neg he, if_neg he]
        exact compileFailed_renamed _ hf

end Classifier
end CourseAudit
