import CourseAudit.Proofs.Enumeration
import CourseAudit.Proofs.Resolution

/-!
The name of a pattern, read off the name of its directory. The mark of a lesson goes, and with it
every number that stands at the beginning, so that a name behind the lesson numbers comes back
unless it begins with a number itself. Main statement: `Course.patternName_lesson`.
-/
namespace CourseAudit
namespace Course

structure IsNumber (text : List Char) : Prop where
  nonempty : text ≠ []
  digits   : ∀ c ∈ text, c.isDigit = true

def StartsWithNumber (text : List Char) : Prop :=
  ∃ number, IsNumber number ∧ (text = number ∨ ∃ rest, text = number ++ '_' :: rest)

-- What is left of a text without the numbers at its beginning.
inductive Unnumbered : List Char → List Char → Prop
  | done {text : List Char} : ¬StartsWithNumber text → Unnumbered text text
  | last {number : List Char} : IsNumber number → Unnumbered number []
  | skip {number text rest : List Char} : IsNumber number → Unnumbered text rest →
    Unnumbered (number ++ '_' :: text) rest

-- The name of the directory of a lesson.
def lesson (chapter part name : String) : String :=
  "lesson_" ++ chapter ++ "_" ++ part ++ "_" ++ name

variable {number text rest : List Char}

theorem isNumber_iff : isNumber text = true ↔ IsNumber text := by
  rw [isNumber, Bool.and_eq_true, Bool.not_eq_true', List.isEmpty_eq_false_iff, List.all_eq_true]
  exact ⟨fun ⟨hn, hd⟩ => ⟨hn, hd⟩, fun ⟨hn, hd⟩ => ⟨hn, hd⟩⟩

instance : DecidablePred IsNumber :=
  fun _ => decidable_of_iff _ isNumber_iff

theorem IsNumber.not_mem (h : IsNumber number) : '_' ∉ number :=
  fun hm => absurd (h.digits _ hm) (by decide)

/-! ### Leaving out the numbers -/

theorem afterNumbers_number (h : IsNumber number) : afterNumbers number = [] := by
  rw [afterNumbers, Text.split_of_not_mem h.not_mem,
    List.dropWhile_cons_of_pos (isNumber_iff.mpr h)]
  rfl

theorem afterNumbers_append (h : IsNumber number) :
    afterNumbers (number ++ '_' :: text) = afterNumbers text := by
  rw [afterNumbers, Text.split_append_cons, Text.split_of_not_mem h.not_mem, List.singleton_append,
    List.dropWhile_cons_of_pos (isNumber_iff.mpr h)]
  rfl

-- A text is cut at its first underscore, so a number that comes first is one that it starts with.
theorem startsWithNumber_of_split {segments : List (List Char)}
    (hs : Text.split '_' text = number :: segments) (h : IsNumber number) :
    StartsWithNumber text := by
  have hj : Text.join ['_'] (number :: segments) = text := hs ▸ Text.join_split '_' text
  cases segments
  case nil => exact ⟨number, h, .inl hj.symm⟩
  case cons next segments =>
    refine ⟨number, h, .inr ⟨Text.join ['_'] (next :: segments), ?_⟩⟩
    rw [← hj, Text.join_cons_cons, List.append_assoc, List.singleton_append]

theorem startsWithNumber_iff :
    StartsWithNumber text ↔ (Text.split '_' text).head?.any isNumber = true := by
  constructor
  case mp =>
    rintro ⟨number, hn, rfl | ⟨rest, rfl⟩⟩
    case inl => simpa [Text.split_of_not_mem hn.not_mem] using isNumber_iff.mpr hn
    case inr =>
      simpa [Text.split_append_cons, Text.split_of_not_mem hn.not_mem] using isNumber_iff.mpr hn
  case mpr =>
    intro h
    have ⟨first, segments, hs⟩ := List.exists_cons_of_ne_nil (Text.split_ne_nil '_' text)
    rw [hs] at h
    exact startsWithNumber_of_split hs (isNumber_iff.mp h)

instance : DecidablePred StartsWithNumber :=
  fun _ => decidable_of_iff _ startsWithNumber_iff.symm

theorem afterNumbers_of_not (h : ¬StartsWithNumber text) : afterNumbers text = text := by
  have ⟨first, segments, hs⟩ := List.exists_cons_of_ne_nil (Text.split_ne_nil '_' text)
  have hn : ¬isNumber first = true := fun hn =>
    h (startsWithNumber_of_split hs (isNumber_iff.mp hn))
  rw [afterNumbers, hs, List.dropWhile_cons_of_neg hn, ← hs, Text.join_split]

theorem unnumbered_afterNumbers (text : List Char) : Unnumbered text (afterNumbers text) := by
  by_cases hs : StartsWithNumber text
  case neg => exact (afterNumbers_of_not hs).symm ▸ .done hs
  case pos =>
    obtain ⟨number, hn, ht | ⟨rest, ht⟩⟩ := hs
    case inl =>
      rw [ht, afterNumbers_number hn]
      exact .last hn
    case inr =>
      have : rest.length < text.length := by
        simp only [ht, List.length_append, List.length_cons]
        omega
      rw [ht, afterNumbers_append hn]
      exact .skip hn (unnumbered_afterNumbers rest)
termination_by text.length

namespace Unnumbered

theorem afterNumbers_eq (h : Unnumbered text rest) : afterNumbers text = rest := by
  induction h
  case done h => exact afterNumbers_of_not h
  case last h => exact afterNumbers_number h
  case skip h _ hi => exact (afterNumbers_append h).trans hi

theorem length_le (h : Unnumbered text rest) : rest.length ≤ text.length := by
  induction h
  case done => exact Nat.le_refl _
  case last => exact Nat.zero_le _
  case skip hi => simp; omega

theorem length_lt (h : Unnumbered text rest) (hs : StartsWithNumber text) :
    rest.length < text.length := by
  cases h
  case done h => exact (h hs).elim
  case last h => exact List.length_pos_iff.mpr h.nonempty
  case skip h =>
    have := h.length_le
    simp
    omega

end Unnumbered

/-! ### The directory of a lesson -/

variable {directory : Path} {chapter part name : String}

theorem lesson_toList :
    (lesson chapter part name).toList =
      lessonMark ++ (chapter.toList ++ '_' :: (part.toList ++ '_' :: name.toList)) := by
  have hu : "_".toList = ['_'] := rfl
  simp only [lesson, String.toList_append, lessonMark_eq, hu, List.append_assoc,
    List.cons_append, List.nil_append]

theorem lesson_ne : lesson chapter part name ≠ name := by
  intro h
  have hl := congrArg (·.toList.length) h
  simp only [lesson_toList, List.length_append, List.length_cons] at hl
  omega

section

variable (hc : IsNumber chapter.toList) (hp : IsNumber part.toList)
  (hd : directory.fileName = lesson chapter part name)
include hc hp hd

theorem exists_unnumbered_patternName :
    ∃ rest : String, Unnumbered name.toList rest.toList ∧
      patternName directory = if rest = "" then directory.fileName else rest := by
  refine ⟨String.ofList (afterNumbers name.toList), ?_, ?_⟩
  case refine_1 =>
    rw [String.toList_ofList]
    exact unnumbered_afterNumbers name.toList
  case refine_2 =>
    have hs : Text.stripStart? lessonMark (lesson chapter part name).toList = _ :=
      Text.stripStart?_eq_some_iff.mpr lesson_toList
    rw [patternName, hd, shortName, hs]
    simp only [afterNumbers_append hc, afterNumbers_append hp]
    split
    case isTrue he => simp [List.isEmpty_iff.mp he]
    case isFalse he => simp_all

theorem patternName_eq_iff (hn : name ≠ "") :
    patternName directory = name ↔ ¬StartsWithNumber name.toList := by
  have ⟨rest, hr, he⟩ := exists_unnumbered_patternName hc hp hd
  rw [he]
  constructor
  case mp =>
    intro h hs
    split at h
    case isTrue => exact lesson_ne (hd.symm.trans h)
    case isFalse => exact absurd (hr.length_lt hs) (by simp [h])
  case mpr =>
    intro hs
    obtain rfl : rest = name :=
      String.toList_inj.mp (hr.afterNumbers_eq.symm.trans (afterNumbers_of_not hs))
    rw [if_neg hn]

end

-- A pattern has the name behind its lesson numbers, and is found by it, unless that name begins
-- with a number: then this number goes too.
theorem patternName_lesson (hc : IsNumber chapter.toList) (hp : IsNumber part.toList)
    (hn : name ≠ "") (hd : directory.fileName = lesson chapter part name) :
    (patternName directory = name ↔ ¬StartsWithNumber name.toList) ∧
    (∃ rest : String, Unnumbered name.toList rest.toList ∧
      patternName directory = if rest = "" then directory.fileName else rest) ∧
    ∀ t root patterns, findPatterns t root = .ok patterns → directory ∈ patterns →
      t.isDirectory ⟨name⟩ = false →
      (∀ q ∈ patterns, q ≠ directory → q.fileName ≠ name ∧ patternName q ≠ name) →
      (¬StartsWithNumber name.toList → resolvePattern t root name = .ok directory) ∧
      (StartsWithNumber name.toList →
        resolvePattern t root name = .error (.patternNotFound name root)) := by
  have hi := patternName_eq_iff hc hp hd hn
  refine ⟨hi, exists_unnumbered_patternName hc hp hd, fun t root patterns hf hm ht ho => ⟨?_, ?_⟩⟩
  case refine_1 =>
    intro hs
    rw [resolvePattern_of_unique hf hm (hi.mpr hs) ho, typedOr, if_neg (by simp [ht])]
  case refine_2 =>
    intro hs
    have hall : ∀ q ∈ patterns, q.fileName ≠ name ∧ patternName q ≠ name := by
      intro q hq
      by_cases he : q = directory
      case pos => exact he ▸ ⟨hd ▸ lesson_ne, fun h => hi.mp h hs⟩
      case neg => exact ho q hq he
    exact resolvePattern_of_unknown ht hf (fun q hq => (hall q hq).1) fun q hq => (hall q hq).2

end Course

namespace Sample

def limits : FileTree where
  root := .directory [("10-limits", .directory [("lesson_10_12_rate_limiter", .directory [])])]
  cwd := []

def rateLimiter : Path := (Path.join ⟨"/"⟩ "10-limits").join "lesson_10_12_rate_limiter"

-- A name with an underscore in it comes back whole.
theorem rate_limiter_found :
    Course.patternName rateLimiter = "rate_limiter" ∧
    Course.resolvePattern limits ⟨"/"⟩ "rate_limiter" = .ok rateLimiter := by
  have hd : rateLimiter.fileName = Course.lesson "10" "12" "rate_limiter" := by decide +kernel
  have ⟨hn, _, hr⟩ := Course.patternName_lesson (by decide) (by decide) (by decide) hd
  have hs : ¬Course.StartsWithNumber "rate_limiter".toList := by decide
  have ⟨hf, _⟩ := hr limits ⟨"/"⟩ [rateLimiter] (by decide +kernel) List.mem_cons_self
    (by decide +kernel) (by decide +kernel)
  exact ⟨hn.mpr hs, hf hs⟩

def commits : FileTree where
  root := .directory [("07-commits", .directory [("lesson_7_3_2_phase_commit", .directory [])])]
  cwd := []

def phaseCommit : Path := (Path.join ⟨"/"⟩ "07-commits").join "lesson_7_3_2_phase_commit"

-- The third number of this directory is no number of the lesson.
theorem phase_commit_without_its_number :
    ¬∀ (directory : Path) (chapter part name : String), Course.IsNumber chapter.toList →
      Course.IsNumber part.toList → name ≠ "" → '/' ∉ name.toList →
      directory.fileName = Course.lesson chapter part name →
      ∀ t root patterns, Course.findPatterns t root = .ok patterns → directory ∈ patterns →
        t.isDirectory ⟨name⟩ = false →
        (∀ q ∈ patterns, q ≠ directory → q.fileName ≠ name ∧ Course.patternName q ≠ name) →
        Course.patternName directory = name ∧
        Course.resolvePattern t root name = .ok directory := by
  intro h
  have ⟨hn, _⟩ := h phaseCommit "7" "3" "2_phase_commit" (by decide) (by decide) (by decide)
    (by decide) (by decide +kernel) commits ⟨"/"⟩ [phaseCommit] (by decide +kernel)
    List.mem_cons_self (by decide +kernel) (by decide +kernel)
  have hp : Course.patternName phaseCommit = "phase_commit" := by decide +kernel
  exact absurd (hp.symm.trans hn) (by decide)

end Sample
end CourseAudit
