import CourseAudit.Proofs.Enumeration
import CourseAudit.Proofs.Tidying

/-!
The search for the course around a directory, on disks some of whose directories may be closed.
Main statement: `Disk.findRoot_nearest` (the nearest course around a directory is found, and from
inside a pattern there always is one).
-/
namespace CourseAudit

open FileTree (Lister)

-- What can be asked of a disk: what its directories list, and where a file lies.
structure Disk where
  list   : Lister
  isFile : Path → Bool
  steady : list.Steady

-- A tree of files, none of whose directories is closed.
def SoundTree.disk (t : SoundTree) : Disk :=
  ⟨t.lister, t.isFile, t.lister_steady⟩

namespace Course

variable {list : Lister} {root : Path} {module name : String}

namespace IsPattern

variable (h : IsPattern list root module name)
include h

theorem trimmed (hl : list.Steady) : IsPattern list root.trimmed module name where
  aroundShown := have ⟨entries, hr, he⟩ := h.aroundShown; ⟨entries, hl.trimmed hr, he⟩
  aroundNamed := h.aroundNamed
  shown :=
    have ⟨entries, hr, he⟩ := h.shown
    ⟨entries, hl.join h.aroundShown.isName hr, he⟩
  named := h.named

theorem trimmed_path :
    (patternPath root (module, name)).trimmed = patternPath root (module, name) :=
  Path.trimmed_join _ h.shown.isName

-- Around a pattern is its module, and around that the root of the course.
theorem path_within : (patternPath root (module, name)).Within root.trimmed := by
  have hm := h.aroundShown.isName
  have hw := (root.join module).within_join h.shown.isName
  rw [root.trimmed_join hm] at hw
  exact hw.trans (root.within_join hm)

end IsPattern

-- What a course comes to if it is entered by a pattern that was found in it.
theorem exists_isPattern_of_mem {paths : List Path} {directory : Path}
    (ht : tour list root = .ok paths) (hd : directory ∈ paths) :
    ∃ module name, IsPattern list root module name ∧
      directory = patternPath root (module, name) := by
  cases hl : list root
  case error e => rw [tour, hl] at ht; cases ht
  case ok entries =>
    cases ht.symm.trans (tour_of_ok hl)
    obtain ⟨⟨module, name⟩, hn, rfl⟩ := List.mem_map.mp hd
    exact ⟨module, name, mem_namesBelow.mp hn, rfl⟩

theorem exists_tour_of_isPattern (h : IsPattern list root module name) :
    ∃ paths, tour list root = .ok paths ∧ paths ≠ [] := by
  have ⟨entries, hl, _⟩ := h.aroundShown
  refine ⟨_, tour_of_ok hl, ?_⟩
  exact List.ne_nil_of_mem (List.mem_map_of_mem (mem_namesBelow.mpr h))

end Course

namespace Disk

open Course (tour comesByPattern configFileName)

-- A configuration file lies in the directory, or there are patterns below it.
def IsRoot (disk : Disk) (p : Path) : Prop :=
  disk.isFile (p.join configFileName) = true ∨ ∃ paths, tour disk.list p = .ok paths ∧ paths ≠ []

def findRoot (disk : Disk) (start : Path) : Except AuditFailure Path :=
  match start.ancestors.find? fun p =>
    disk.isFile (p.join configFileName) || comesByPattern disk.list p with
  | some root => .ok root
  | none => .error .courseRootNotFound

variable {disk : Disk} {start root r : Path}

theorem isRoot_iff (p : Path) :
    (disk.isFile (p.join configFileName) || comesByPattern disk.list p) = true ↔ disk.IsRoot p := by
  rw [Bool.or_eq_true, Course.comesByPattern_iff, IsRoot]

theorem findRoot_eq_ok_iff :
    disk.findRoot start = .ok r ↔ start.Nearest disk.IsRoot r := by
  simp only [← funext fun p => propext (disk.isRoot_iff p), ← Path.find?_ancestors_eq_some_iff]
  rw [findRoot]
  split
  case h_1 h => rw [h, Except.ok.injEq, Option.some.injEq]
  case h_2 h => rw [h]; exact iff_of_false nofun nofun

theorem findRoot_eq_error_iff {failure : AuditFailure} :
    disk.findRoot start = .error failure ↔
      failure = .courseRootNotFound ∧ ∀ q, start.Within q → ¬disk.IsRoot q := by
  have hn : (∀ q, start.Within q → ¬disk.IsRoot q) ↔ start.ancestors.find? (fun p =>
      disk.isFile (p.join configFileName) || comesByPattern disk.list p) = none := by
    simp only [List.find?_eq_none, Path.mem_ancestors, isRoot_iff]
  rw [hn, findRoot]
  split
  case h_1 h => rw [h]; exact iff_of_false nofun nofun
  case h_2 h => simp [h, eq_comm]

theorem exists_nearest (h : start.Within root) (hr : disk.IsRoot root) :
    ∃ r, disk.findRoot start = .ok r ∧ start.Within r ∧ r.Within root := by
  cases hf : disk.findRoot start
  case error => exact ((findRoot_eq_error_iff.mp hf).2 root h hr).elim
  case ok r =>
    have hn := findRoot_eq_ok_iff.mp hf
    refine ⟨r, rfl, hn.within, ?_⟩
    rcases hn.within.total h with hw | hw
    case inl => exact hw
    case inr => exact hn.first root h hw hr ▸ .refl root

-- From inside a pattern of a course this course is found, or one that is nearer. The root is found
-- as it reads without the slashes and dots at its end.
theorem findRoot_nearest (disk : Disk) (start : Path) :
    (∀ r, disk.findRoot start = .ok r ↔ start.Nearest disk.IsRoot r) ∧
    (∀ failure, disk.findRoot start = .error failure ↔
      failure = .courseRootNotFound ∧ ∀ q, start.Within q → ¬disk.IsRoot q) ∧
    (∀ (root : Path) (paths : List Path) (directory : Path) (names : List String),
      tour disk.list root = .ok paths → directory ∈ paths → (∀ n ∈ names, Path.IsName n) →
      start = names.foldl Path.join directory →
      root.trimmed.components = root.components ∧
      (∃ r, disk.findRoot start = .ok r ∧ start.Within r ∧ r.Within root.trimmed) ∧
      ((∀ q, start.Within q → q.Within root.trimmed → q ≠ root.trimmed → ¬disk.IsRoot q) →
        disk.findRoot start = .ok root.trimmed)) ∧
    ∀ t : SoundTree,
      Course.findRoot t start = t.disk.findRoot start ∧
      ∀ root, Course.findPatterns t root = tour t.disk.list root := by
  refine ⟨fun _ => findRoot_eq_ok_iff, fun _ => findRoot_eq_error_iff, ?_, fun t => ⟨?_, ?_⟩⟩
  case refine_1 =>
    rintro root paths directory names ht hd hn rfl
    obtain ⟨module, name, hp, rfl⟩ := Course.exists_isPattern_of_mem ht hd
    have hw := (Path.foldl_join_within hp.trimmed_path hn).trans hp.path_within
    have hr : disk.IsRoot root.trimmed :=
      .inr (Course.exists_tour_of_isPattern (hp.trimmed disk.steady))
    refine ⟨root.components_trimmed, exists_nearest hw hr, fun hno => ?_⟩
    refine findRoot_eq_ok_iff.mpr ⟨hw, hr, fun q hq hqr hh => ?_⟩
    by_contra hne
    exact hno q hq hqr hne hh
  case refine_2 =>
    simp only [Course.findRoot, findRoot, funext fun p => Course.isRoot_eq t p]
    rfl
  case refine_3 => exact Course.findPatterns_eq_tour t

end Disk

namespace Sample

-- A course inside a pattern of another course.
def nested : SoundTree where
  root := .directory [("c", .directory [
    ("01-a", .directory [
      ("lesson_1", .directory [
        ("02-b", .directory [
          ("lesson_2", .directory [])])])])])]
  cwd := []
  sound := by decide +kernel

def outer : Path := ⟨"/c/./"⟩

def inner : Path := ⟨"/c/./01-a/lesson_1/"⟩

-- A directory that is not there.
def missing : Path := ⟨"/c/./01-a/lesson_1/02-b/lesson_2/gone"⟩

theorem not_isRoot_between :
    ∀ q, missing.Within q → q.Within inner.trimmed → q ≠ inner.trimmed →
      ¬nested.disk.IsRoot q := by
  intro q
  rw [← Path.mem_ancestors, ← Path.mem_ancestors, ← Disk.isRoot_iff]
  revert q
  decide +kernel

-- From inside both courses the inner one is found.
theorem inner_course_found :
    Course.findRoot nested missing = .ok inner.trimmed ∧
    inner.trimmed.Within outer.trimmed ∧ outer.trimmed = ⟨"/c"⟩ := by
  have ⟨_, _, hc, hf⟩ := nested.disk.findRoot_nearest missing
  have ⟨_, _, hi⟩ := hc inner [(inner.join "02-b").join "lesson_2"] _ ["gone"]
    (by decide +kernel) List.mem_cons_self (by decide) (by decide +kernel)
  have ⟨_, ⟨r, hr, _, hw⟩, _⟩ := hc outer [(outer.join "01-a").join "lesson_1"] _
    ["02-b", "lesson_2", "gone"] (by decide +kernel) List.mem_cons_self (by decide)
    (by decide +kernel)
  have hr' := hi not_isRoot_between
  have ht := (hf nested).1
  cases hr.symm.trans hr'
  exact ⟨ht.trans hr', hw, by decide +kernel⟩

end Sample
end CourseAudit
