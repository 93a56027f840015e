import CourseAudit.Course.Search
import Mathlib.Tactic.ByContra

/-!
What a query for a pattern stands for. A path to a directory goes before the name of a directory,
and that before the name of a pattern. Main statement: `Course.resolvePattern_priority`.
-/
namespace CourseAudit
namespace Course

-- The first of some paths with a property.
def IsFirst (holds : Path → Prop) (paths : List Path) (p : Path) : Prop :=
  ∃ before after, paths = before ++ p :: after ∧ holds p ∧ ∀ q ∈ before, ¬holds q

section

variable (t : FileTree) (root : Path) (query : String)

-- What a query comes to: a directory as it was typed, or what the course has under that name.
inductive Resolves : Except AuditFailure Path → Prop
  | typed : t.isDirectory ⟨query⟩ = true → Resolves (.ok ⟨query⟩)
  | unlisted {failure : AuditFailure} : t.isDirectory ⟨query⟩ = false →
    findPatterns t root = .error failure → Resolves (.error failure)
  | byDirectory {patterns : List Path} {p : Path} : t.isDirectory ⟨query⟩ = false →
    findPatterns t root = .ok patterns → IsFirst (·.fileName = query) patterns p → Resolves (.ok p)
  | byPattern {patterns : List Path} {p : Path} : t.isDirectory ⟨query⟩ = false →
    findPatterns t root = .ok patterns → (∀ q ∈ patterns, q.fileName ≠ query) →
    IsFirst (patternName · = query) patterns p → Resolves (.ok p)
  | unknown {patterns : List Path} : t.isDirectory ⟨query⟩ = false →
    findPatterns t root = .ok patterns → (∀ q ∈ patterns, q.fileName ≠ query) →
    (∀ q ∈ patterns, patternName q ≠ query) → Resolves (.error (.patternNotFound query root))

-- A query that leads to a directory from the current one stands for that directory.
def typedOr (p : Path) : Path :=
  if t.isDirectory ⟨query⟩ then ⟨query⟩ else p

end

variable {t : FileTree} {root p : Path} {query : String} {patterns : List Path}

theorem find?_eq_some_iff_isFirst {holds : Path → Prop} [DecidablePred holds] :
    patterns.find? (fun q => decide (holds q)) = some p ↔ IsFirst holds patterns p := by
  rw [List.find?_eq_some_iff_append, IsFirst]
  simp only [decide_eq_true_eq, Bool.not_eq_true', decide_eq_false_iff_not]
  constructor
  case mp => exact fun ⟨hp, before, after, hs, hb⟩ => ⟨before, after, hs, hp, hb⟩
  case mpr => exact fun ⟨before, after, hs, hp, hb⟩ => ⟨hp, before, after, hs, hb⟩

theorem IsFirst.mem {holds : Path → Prop} (h : IsFirst holds patterns p) : p ∈ patterns := by
  obtain ⟨before, after, rfl, -, -⟩ := h
  exact List.mem_append_right _ List.mem_cons_self

theorem IsFirst.holds {holds : Path → Prop} (h : IsFirst holds patterns p) : holds p :=
  have ⟨_, _, _, hp, _⟩ := h
  hp

theorem exists_isFirst {holds : Path → Prop} [DecidablePred holds] (hp : p ∈ patterns)
    (hh : holds p) : ∃ q, IsFirst holds patterns q := by
  have hs : (patterns.find? fun q => decide (holds q)).isSome :=
    List.find?_isSome.mpr ⟨p, hp, decide_eq_true hh⟩
  have ⟨q, hq⟩ := Option.isSome_iff_exists.mp hs
  exact ⟨q, find?_eq_some_iff_isFirst.mp hq⟩

theorem find?_eq_none_iff_forall {holds : Path → Prop} [DecidablePred holds] :
    patterns.find? (fun q => decide (holds q)) = none ↔ ∀ q ∈ patterns, ¬holds q := by
  simp only [List.find?_eq_none, decide_eq_true_eq]

/-! ### One way to resolve a query -/

theorem resolvePattern_of_directory (h : t.isDirectory ⟨query⟩ = true) :
    resolvePattern t root query = .ok ⟨query⟩ := by
  rw [resolvePattern, if_pos h]

theorem resolvePattern_of_error {failure : AuditFailure} (h : t.isDirectory ⟨query⟩ = false)
    (hf : findPatterns t root = .error failure) : resolvePattern t root query = .error failure := by
  rw [resolvePattern, if_neg (Bool.eq_false_iff.mp h), hf]
  rfl

section

variable (h : t.isDirectory ⟨query⟩ = false) (hf : findPatterns t root = .ok patterns)
include h hf

theorem resolvePattern_of_ok :
    resolvePattern t root query =
      match patterns.find? (·.fileName = query) <|> patterns.find? (patternName · = query) with
      | some p => .ok p
      | none => .error (.patternNotFound query root) := by
  rw [resolvePattern, if_neg (Bool.eq_false_iff.mp h), hf]
  rfl

theorem resolvePattern_of_isFirst (hp : IsFirst (·.fileName = query) patterns p) :
    resolvePattern t root query = .ok p := by
  rw [resolvePattern_of_ok h hf, find?_eq_some_iff_isFirst.mpr hp]
  rfl

theorem resolvePattern_of_isFirst_name (hn : ∀ q ∈ patterns, q.fileName ≠ query)
    (hp : IsFirst (patternName · = query) patterns p) : resolvePattern t root query = .ok p := by
  rw [resolvePattern_of_ok h hf, find?_eq_none_iff_forall.mpr hn, find?_eq_some_iff_isFirst.mpr hp]
  rfl

theorem resolvePattern_of_unknown (hn : ∀ q ∈ patterns, q.fileName ≠ query)
    (hp : ∀ q ∈ patterns, patternName q ≠ query) :
    resolvePattern t root query = .error (.patternNotFound query root) := by
  rw [resolvePattern_of_ok h hf, find?_eq_none_iff_forall.mpr hn, find?_eq_none_iff_forall.mpr hp]
  rfl

end

theorem resolvePattern_resolves (t : FileTree) (root : Path) (query : String) :
    Resolves t root query (resolvePattern t root query) := by
  cases h : t.isDirectory ⟨query⟩
  case true => exact resolvePattern_of_directory h ▸ .typed h
  case false =>
    cases hf : findPatterns t root
    case error failure => exact resolvePattern_of_error h hf ▸ .unlisted h hf
    case ok patterns =>
      by_cases hd : ∃ q ∈ patterns, q.fileName = query
      case pos =>
        have ⟨_, hq, hn⟩ := hd
        have ⟨p, hp⟩ : ∃ p, IsFirst (·.fileName = query) patterns p := exists_isFirst hq hn
        exact resolvePattern_of_isFirst h hf hp ▸ .byDirectory h hf hp
      case neg =>
        have hd : ∀ q ∈ patterns, q.fileName ≠ query := fun q hq hn => hd ⟨q, hq, hn⟩
        by_cases hn : ∃ q ∈ patterns, patternName q = query
        case pos =>
          have ⟨_, hq, hn⟩ := hn
          have ⟨p, hp⟩ : ∃ p, IsFirst (patternName · = query) patterns p := exists_isFirst hq hn
          exact resolvePattern_of_isFirst_name h hf hd hp ▸ .byPattern h hf hd hp
        case neg =>
          have hn : ∀ q ∈ patterns, patternName q ≠ query := fun q hq he => hn ⟨q, hq, he⟩
          exact resolvePattern_of_unknown h hf hd hn ▸ .unknown h hf hd hn

theorem Resolves.eq {answer : Except AuditFailure Path} (h : Resolves t root query answer) :
    resolvePattern t root query = answer := by
  cases h
  case typed h => exact resolvePattern_of_directory h
  case unlisted h hf => exact resolvePattern_of_error h hf
  case byDirectory h hf hp => exact resolvePattern_of_isFirst h hf hp
  case byPattern h hf hd hp => exact resolvePattern_of_isFirst_name h hf hd hp
  case unknown h hf hd hn => exact resolvePattern_of_unknown h hf hd hn

/-! ### What a query leads to -/

theorem mem_of_resolvePattern (h : resolvePattern t root query = .ok p) :
    t.isDirectory ⟨query⟩ = true ∧ p = ⟨query⟩ ∨
    ∃ patterns, findPatterns t root = .ok patterns ∧ p ∈ patterns ∧
      (p.fileName = query ∨ patternName p = query) := by
  have hr := resolvePattern_resolves t root query
  rw [h] at hr
  cases hr
  case typed hd => exact .inl ⟨hd, rfl⟩
  case byDirectory hf hp => exact .inr ⟨_, hf, hp.mem, .inl hp.holds⟩
  case byPattern hf _ hp => exact .inr ⟨_, hf, hp.mem, .inr hp.holds⟩

theorem resolvePattern_eq_typedOr (h : t.isDirectory ⟨query⟩ = false →
    resolvePattern t root query = .ok p) :
    resolvePattern t root query = .ok (typedOr t query p) := by
  rw [typedOr]
  cases hd : t.isDirectory ⟨query⟩
  case true => exact resolvePattern_of_directory hd
  case false => exact h hd

-- No name of a pattern comes before the name of a directory.
theorem exists_resolvePattern_of_fileName (hf : findPatterns t root = .ok patterns)
    (hp : p ∈ patterns) (hn : p.fileName = query) :
    ∃ q ∈ patterns, q.fileName = query ∧
      resolvePattern t root query = .ok (typedOr t query q) := by
  have ⟨q, hq⟩ : ∃ q, IsFirst (·.fileName = query) patterns q := exists_isFirst hp hn
  exact ⟨q, hq.mem, hq.holds, resolvePattern_eq_typedOr fun h => resolvePattern_of_isFirst h hf hq⟩

theorem resolvePattern_of_unique (hf : findPatterns t root = .ok patterns) (hp : p ∈ patterns)
    (hn : patternName p = query)
    (ho : ∀ q ∈ patterns, q ≠ p → q.fileName ≠ query ∧ patternName q ≠ query) :
    resolvePattern t root query = .ok (typedOr t query p) := by
  by_cases hd : ∃ q ∈ patterns, q.fileName = query
  case pos =>
    have ⟨_, hq, hn⟩ := hd
    have ⟨q, hq, hn, hr⟩ := exists_resolvePattern_of_fileName hf hq hn
    obtain rfl : q = p := by
      by_contra hne
      exact (ho q hq hne).1 hn
    exact hr
  case neg =>
    refine resolvePattern_eq_typedOr fun h => ?_
    have ⟨q, hq⟩ : ∃ q, IsFirst (patternName · = query) patterns q := exists_isFirst hp hn
    obtain rfl : q = p := by
      by_contra hne
      exact (ho q hq.mem hne).2 hq.holds
    exact resolvePattern_of_isFirst_name h hf (fun q hq hn => hd ⟨q, hq, hn⟩) hq

-- A query resolves in one way. It leads to a directory that it names in one of three ways, the
-- first one of them that there is, so a directory of a name and the pattern of a name that nothing
-- else has are found.
theorem resolvePattern_priority (t : FileTree) (root : Path) (query : String) :
    (∀ answer, resolvePattern t root query = answer ↔ Resolves t root query answer) ∧
    (∀ p, resolvePattern t root query = .ok p →
      t.isDirectory ⟨query⟩ = true ∧ p = ⟨query⟩ ∨
      ∃ patterns, findPatterns t root = .ok patterns ∧ p ∈ patterns ∧
        (p.fileName = query ∨ patternName p = query)) ∧
    ∀ patterns, findPatterns t root = .ok patterns →
      (∀ p ∈ patterns, p.fileName = query → ∃ q ∈ patterns, q.fileName = query ∧
        resolvePattern t root query = .ok (typedOr t query q)) ∧
      (∀ p ∈ patterns, p.fileName = query → (∀ q ∈ patterns, q.fileName = query → q = p) →
        resolvePattern t root query = .ok (typedOr t query p)) ∧
      ∀ p ∈ patterns, patternName p = query →
        (∀ q ∈ patterns, q ≠ p → q.fileName ≠ query ∧ patternName q ≠ query) →
        resolvePattern t root query = .ok (typedOr t query p) := by
  refine ⟨fun answer => ⟨?_, Resolves.eq⟩, fun _ => mem_of_resolvePattern,
    fun patterns hf => ⟨?_, ?_, ?_⟩⟩
  case refine_1 => exact fun h => h ▸ resolvePattern_resolves t root query
  case refine_2 => exact fun _ => exists_resolvePattern_of_fileName hf
  case refine_3 =>
    intro p hp hn hu
    have ⟨q, hq, hqn, hr⟩ := exists_resolvePattern_of_fileName hf hp hn
    exact hu q hq hqn ▸ hr
  case refine_4 => exact fun _ => resolvePattern_of_unique hf

end Course

namespace Sample

-- The pattern name of one directory is the name of another, which comes after it.
def reprint : FileTree where
  root := .directory [
    ("01-basics", .directory [
      ("lesson_1_1_lesson_2_1_queue", .directory []),
      ("lesson_2_1_queue", .directory [])])]
  cwd := []

def basics : Path := Path.join ⟨"/"⟩ "01-basics"

def earlierQueue : Path := basics.join "lesson_1_1_lesson_2_1_queue"

def laterQueue : Path := basics.join "lesson_2_1_queue"

theorem list_basics : reprint.list basics =
    .ok [⟨"lesson_1_1_lesson_2_1_queue", .directory⟩, ⟨"lesson_2_1_queue", .directory⟩] :=
  congrArg Except.ok (List.mergeSort_of_pairwise (by decide +kernel))

theorem patternsOfModule_basics :
    Course.patternsOfModule reprint basics = [earlierQueue, laterQueue] := by
  rw [Course.patternsOfModule, Course.subdirectories, list_basics]
  decide +kernel

theorem findPatterns_reprint :
    Course.findPatterns reprint ⟨"/"⟩ = .ok [earlierQueue, laterQueue] := by
  have hm : (Course.subdirectories reprint ⟨"/"⟩).filter Course.isModuleName = ["01-basics"] := by
    decide +kernel
  rw [Course.findPatterns, Course.patternsBelow, hm, List.flatMap_singleton]
  exact congrArg Except.ok patternsOfModule_basics

-- The later directory is found by its name, though the earlier one has that name as a pattern.
theorem queue_found :
    Course.patternName earlierQueue = laterQueue.fileName ∧
    Course.resolvePattern reprint ⟨"/"⟩ laterQueue.fileName = .ok laterQueue ∧
    Course.resolvePattern reprint ⟨"/"⟩ "queue" = .ok laterQueue := by
  have ⟨_, _, hq⟩ := Course.resolvePattern_priority reprint ⟨"/"⟩ laterQueue.fileName
  have ⟨_, hd, _⟩ := hq _ findPatterns_reprint
  have ⟨_, _, hq⟩ := Course.resolvePattern_priority reprint ⟨"/"⟩ "queue"
  have ⟨_, _, hp⟩ := hq _ findPatterns_reprint
  exact ⟨by decide +kernel, hd laterQueue (by simp) rfl (by decide +kernel),
    hp laterQueue (by simp) (by decide +kernel) (by decide +kernel)⟩

end Sample
end CourseAudit
