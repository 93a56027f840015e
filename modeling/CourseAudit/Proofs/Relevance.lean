import CourseAudit.Proofs.ByteOrder
import CourseAudit.Proofs.Survey

/-!
What the discovery of a pattern depends on: the files in its directory, and the files in its
directory for exploits. Nothing else that lies on the disk changes what is found, or whether it is
found. Main statement: `Artifacts.survey_relevant`.
-/
namespace CourseAudit
namespace Artifacts

open FileTree (Entry Lister)

-- Two disks on which a pattern looks the same.
structure Agree (list list' : Lister) (directory : Path) : Prop where
  listable         : list.Listable directory ↔ list'.Listable directory
  files            : ∀ name, list.Shows directory name .file ↔ list'.Shows directory name .file
  exploits         : list.Shows directory exploitsName .directory ↔
    list'.Shows directory exploitsName .directory
  listableExploits : list.Shows directory exploitsName .directory →
    (list.Listable (directory.join exploitsName) ↔ list'.Listable (directory.join exploitsName))
  filesExploits    : list.Shows directory exploitsName .directory → ∀ name,
    list.Shows (directory.join exploitsName) name .file ↔
      list'.Shows (directory.join exploitsName) name .file

-- One answer, or two failures that name one path. Why it cannot be read may differ.
inductive SameAnswer {α : Type} : Except AuditFailure α → Except AuditFailure α → Prop
  | found (a : α) : SameAnswer (.ok a) (.ok a)
  | unreadable (path : Path) (causes causes' : List String) :
    SameAnswer (.error (.directoryUnreadable path causes))
      (.error (.directoryUnreadable path causes'))

-- A directory without which a pattern cannot be discovered, and that cannot be listed.
inductive Blocked (list : Lister) (directory : Path) : Path → Prop
  | pattern : ¬list.Listable directory → Blocked list directory directory
  | exploits :
    list.Shows directory exploitsName .directory → ¬list.Listable (directory.join exploitsName) →
    Blocked list directory (directory.join exploitsName)

variable {list list' : Lister} {directory : Path} {entries entries' : List Entry} {e : Entry}
variable {found : Found} {α β : Type}

namespace SameAnswer

theorem eq_of_ok {a : α} {y : Except AuditFailure α} (h : SameAnswer (.ok a) y) : y = .ok a := by
  cases h
  rfl

theorem map {x y : Except AuditFailure α} (h : SameAnswer x y) (f : α → β) :
    SameAnswer (x.map f) (y.map f) := by
  cases h
  case found a => exact .found (f a)
  case unreadable path causes causes' => exact .unreadable path causes causes'

theorem foldlM {f f' : β → α → Except AuditFailure β} {items : List α} (b : β)
    (h : ∀ item ∈ items, ∀ b, SameAnswer (f b item) (f' b item)) :
    SameAnswer (items.foldlM f b) (items.foldlM f' b) := by
  induction items generalizing b
  case nil => exact .found b
  case cons item rest hi =>
    have ⟨hh, hr⟩ := List.forall_mem_cons.mp h
    rw [List.foldlM_cons, List.foldlM_cons]
    have hh := hh b
    revert hh
    generalize f b item = x
    generalize f' b item = y
    rintro ⟨⟩
    case found b' => exact hi b' hr
    case unreadable => exact .unreadable ..

end SameAnswer

/-! ### Entries that make no difference -/

def isRelevant (e : Entry) : Bool :=
  e.kind = .file || e = ⟨exploitsName, .directory⟩

theorem after_of_irrelevant (hn : Path.IsName e.name) (hr : isRelevant e = false) :
    found.after list directory e = .ok found := by
  obtain ⟨name, kind⟩ := e
  cases kind
  case file => cases hr
  case link => exact after_link
  case directory =>
    have hne : name ≠ exploitsName := by
      rintro rfl
      cases hr
    exact after_directory hn hne

theorem foldlM_filter_isRelevant (hn : ∀ e ∈ entries, Path.IsName e.name) :
    (entries.filter isRelevant).foldlM (Found.after list directory) found =
      entries.foldlM (Found.after list directory) found := by
  induction entries generalizing found
  case nil => rfl
  case cons e rest hi =>
    have ⟨he, hr⟩ := List.forall_mem_cons.mp hn
    cases hk : isRelevant e
    case false =>
      rw [List.filter_cons_of_neg (by simp [hk]), hi hr, List.foldlM_cons,
        after_of_irrelevant he hk]
      rfl
    case true =>
      rw [List.filter_cons_of_pos hk, List.foldlM_cons, List.foldlM_cons]
      exact bind_congr fun found => hi hr

/-! ### Disks that agree -/

section

variable (h : Agree list list' directory)
include h

theorem filter_isRelevant_eq (hl : list directory = .ok entries)
    (hl' : list' directory = .ok entries') :
    (entries.mergeSort FileTree.entryLe).filter isRelevant =
      (entries'.mergeSort FileTree.entryLe).filter isRelevant := by
  have hw := (Lister.increasing hl).filter isRelevant
  have hw' := (Lister.increasing hl').filter isRelevant
  refine increasing_ext Entry.name hw hw' fun e => ?_
  obtain ⟨name, kind⟩ := e
  simp only [List.mem_filter, List.mem_mergeSort, isRelevant, ← Lister.shows_iff hl,
    ← Lister.shows_iff hl', Bool.or_eq_true, decide_eq_true_eq]
  refine and_congr_left fun hr => ?_
  rcases hr with rfl | he
  case inl => exact h.files name
  case inr =>
    cases he
    exact h.exploits

theorem after_same (hn : Path.IsName e.name) (hr : isRelevant e = true)
    (hd : list.Shows directory e.name e.kind) (found : Found) :
    SameAnswer (found.after list directory e) (found.after list' directory e) := by
  obtain ⟨name, kind⟩ := e
  cases kind
  case file =>
    rw [after_file hn, after_file hn]
    exact .found _
  case link => simp [isRelevant] at hr
  case directory =>
    obtain rfl : name = exploitsName := by simpa [isRelevant] using hr
    have hb := h.listableExploits hd
    cases hl : list (directory.join exploitsName) <;>
      cases hl' : list' (directory.join exploitsName)
    case error.error =>
      rw [after_exploits_of_error hl, after_exploits_of_error hl']
      exact .unreadable ..
    case error.ok =>
      have ⟨_, ho⟩ := hb.mpr ⟨_, hl'⟩
      cases hl.symm.trans ho
    case ok.error =>
      have ⟨_, ho⟩ := hb.mp ⟨_, hl⟩
      cases hl'.symm.trans ho
    case ok.ok below below' =>
      have hf : filesOf (below.mergeSort FileTree.entryLe) =
          filesOf (below'.mergeSort FileTree.entryLe) := by
        refine increasing_ext id (filesOf_pairwise (Lister.increasing hl))
          (filesOf_pairwise (Lister.increasing hl')) fun name => ?_
        rw [mem_filesOf, mem_filesOf, List.mem_mergeSort, List.mem_mergeSort,
          ← Lister.shows_iff hl, ← Lister.shows_iff hl']
        exact h.filesExploits hd name
      rw [after_exploits_of_ok hl, after_exploits_of_ok hl', hf]
      exact .found _

theorem survey_same : SameAnswer (survey list directory) (survey list' directory) := by
  cases hl : list directory <;> cases hl' : list' directory
  case error.error =>
    rw [survey, survey, hl, hl']
    exact .unreadable ..
  case error.ok =>
    obtain ⟨_, ho⟩ := h.listable.mpr ⟨_, hl'⟩
    cases hl.symm.trans ho
  case ok.error =>
    obtain ⟨_, ho⟩ := h.listable.mp ⟨_, hl⟩
    cases hl'.symm.trans ho
  case ok.ok entries entries' =>
    have hn := Lister.isName_of_mem hl
    rw [survey_of_ok hl, survey_of_ok hl', ← foldlM_filter_isRelevant hn,
      ← foldlM_filter_isRelevant (Lister.isName_of_mem hl'), ← filter_isRelevant_eq h hl hl']
    refine (SameAnswer.foldlM _ fun e he found => ?_).map _
    obtain ⟨he, hr⟩ := List.mem_filter.mp he
    have hd := (Lister.shows_iff hl).mpr (List.mem_mergeSort.mp he)
    exact after_same h (hn e he) hr hd found

end

/-! ### Failures -/

-- How the directory for exploits keeps a pattern from being discovered.
def ExploitsFail (list : Lister) (directory : Path) (f : AuditFailure) : Prop :=
  ∃ e, list (directory.join exploitsName) = .error e ∧
    f = .directoryUnreadable (directory.join exploitsName)
      ["IO error for operation on " ++ (directory.join exploitsName).text ++ ": " ++ e.message,
        e.message]

theorem ExploitsFail.unique {f f' : AuditFailure} (h : ExploitsFail list directory f)
    (h' : ExploitsFail list directory f') : f = f' := by
  obtain ⟨e, hl, rfl⟩ := h
  obtain ⟨e', hl', rfl⟩ := h'
  cases hl.symm.trans hl'
  rfl

section

variable {f : AuditFailure}

theorem after_eq_error_iff (hn : Path.IsName e.name) :
    found.after list directory e = .error f ↔
      e = ⟨exploitsName, .directory⟩ ∧ ExploitsFail list directory f := by
  by_cases he : e = ⟨exploitsName, .directory⟩
  case pos =>
    subst he
    rw [ExploitsFail]
    cases hl : list (directory.join exploitsName)
    case error e => rw [after_exploits_of_error hl]; simp [eq_comm]
    case ok entries => rw [after_exploits_of_ok hl]; simp
  case neg =>
    refine iff_of_false ?_ fun h => he h.1
    cases hr : isRelevant e
    case false => rw [after_of_irrelevant hn hr]; nofun
    case true =>
      obtain ⟨name, kind⟩ := e
      obtain rfl : kind = .file := by simpa [isRelevant, he] using hr
      rw [after_file hn]
      nofun

-- By induction on the entries. Wherever the directory for exploits stands among them, nothing else
-- fails before it.
theorem foldlM_after_eq_error_iff (hn : ∀ e ∈ entries, Path.IsName e.name) (found : Found) :
    entries.foldlM (Found.after list directory) found = .error f ↔
      ⟨exploitsName, .directory⟩ ∈ entries ∧ ExploitsFail list directory f := by
  induction entries generalizing found
  case nil => simp [pure, Except.pure]
  case cons e rest hi =>
    have ⟨he, hr⟩ := List.forall_mem_cons.mp hn
    rw [List.foldlM_cons, List.mem_cons]
    cases ha : found.after list directory e
    case error f' =>
      obtain ⟨rfl, hf⟩ := (after_eq_error_iff he).mp ha
      constructor
      case mp =>
        rintro ⟨⟩
        exact ⟨.inl rfl, hf⟩
      case mpr =>
        rintro ⟨-, hf'⟩
        rw [hf'.unique hf]
        rfl
    case ok found' =>
      refine (hi hr found').trans (and_congr_left fun hf => (or_iff_right ?_).symm)
      rintro rfl
      cases ha.symm.trans ((after_eq_error_iff he).mpr ⟨rfl, hf⟩)

theorem survey_eq_error_iff :
    survey list directory = .error f ↔
      (∃ e, list directory = .error e ∧ f = .directoryUnreadable directory [e.message]) ∨
      (list.Shows directory exploitsName .directory ∧ ExploitsFail list directory f) := by
  cases hl : list directory
  case error e =>
    have hn : ¬list.Shows directory exploitsName .directory := by
      rintro ⟨_, hl', _⟩
      cases hl.symm.trans hl'
    rw [survey, hl]
    simp [hn, eq_comm]
  case ok entries =>
    rw [survey_of_ok hl, Lister.shows_iff hl, ← List.mem_mergeSort,
      ← foldlM_after_eq_error_iff (Lister.isName_of_mem hl) ⟨[], none⟩]
    cases (entries.mergeSort FileTree.entryLe).foldlM (Found.after list directory) ⟨[], none⟩ <;>
      simp [Except.map]

theorem blocked_iff {path : Path} :
    Blocked list directory path ↔
      ∃ causes, survey list directory = .error (.directoryUnreadable path causes) := by
  simp only [survey_eq_error_iff, ExploitsFail]
  constructor
  case mp =>
    rintro (hn | ⟨hd, hn⟩)
    case pattern =>
      have ⟨e, hl⟩ := Lister.not_listable_iff.mp hn
      exact ⟨_, .inl ⟨e, hl, rfl⟩⟩
    case exploits =>
      have ⟨e, hl⟩ := Lister.not_listable_iff.mp hn
      exact ⟨_, .inr ⟨hd, e, hl, rfl⟩⟩
  case mpr =>
    rintro ⟨causes, ⟨e, hl, hf⟩ | ⟨hd, e, hl, hf⟩⟩
    case inl =>
      cases hf
      exact .pattern (Lister.not_listable_iff.mpr ⟨e, hl⟩)
    case inr =>
      cases hf
      exact .exploits hd (Lister.not_listable_iff.mpr ⟨e, hl⟩)

theorem exists_of_survey_eq_error (h : survey list directory = .error f) :
    ∃ path causes, f = .directoryUnreadable path causes := by
  rcases survey_eq_error_iff.mp h with ⟨e, _, rfl⟩ | ⟨_, e, _, rfl⟩
  all_goals exact ⟨_, _, rfl⟩

end

end Artifacts

namespace Sample

-- A pattern with a directory for exploits, and the same pattern among much else.
def tidy : SoundTree where
  root := .directory [("queue", .directory [
    ("README.md", .file [] false),
    ("exploits", .directory [("race.cpp", .file [] false)]),
    ("queue_vulnerabilities.cpp", .file [] false)])]
  cwd := []
  sound := by decide +kernel

def crowded : SoundTree where
  root := .directory [("queue", .directory [
    ("README.md", .file [] false),
    ("build", .directory [("old_exploits.cpp", .file [] false)]),
    ("exploits", .directory [
      ("deep", .directory [("b.cpp", .file [] false)]),
      ("race.cpp", .file [] false)]),
    ("exploits_old", .directory [("a.cpp", .file [] false)]),
    ("queue_vulnerabilities.cpp", .file [] false),
    ("secure_queue_alternatives.cpp", .link "/nowhere")])]
  cwd := []
  sound := by decide +kernel

def queue : Path := ⟨"/queue"⟩

-- Whoever reads it has no access to what was built.
def locked : FileTree.Lister :=
  crowded.lister.closing fun directory => directory = queue.join "build"

theorem tidy_list : tidy.lister queue =
    .ok [⟨"README.md", .file⟩, ⟨"exploits", .directory⟩, ⟨"queue_vulnerabilities.cpp", .file⟩] :=
  congrArg Except.ok (List.mergeSort_of_pairwise (by decide +kernel))

theorem tidy_list_exploits :
    tidy.lister (queue.join Artifacts.exploitsName) = .ok [⟨"race.cpp", .file⟩] :=
  congrArg Except.ok (List.mergeSort_of_pairwise (by decide +kernel))

theorem locked_list : locked queue =
    .ok [⟨"README.md", .file⟩, ⟨"build", .directory⟩, ⟨"exploits", .directory⟩,
      ⟨"exploits_old", .directory⟩, ⟨"queue_vulnerabilities.cpp", .file⟩,
      ⟨"secure_queue_alternatives.cpp", .link⟩] :=
  congrArg Except.ok (List.mergeSort_of_pairwise (by decide +kernel))

theorem locked_list_exploits : locked (queue.join Artifacts.exploitsName) =
    .ok [⟨"deep", .directory⟩, ⟨"race.cpp", .file⟩] :=
  congrArg Except.ok (List.mergeSort_of_pairwise (by decide +kernel))

theorem agree_tidy_locked : Artifacts.Agree tidy.lister locked queue where
  listable := iff_of_true ⟨_, tidy_list⟩ ⟨_, locked_list⟩
  files name := by
    rw [FileTree.Lister.shows_iff tidy_list, FileTree.Lister.shows_iff locked_list]
    simp
  exploits := by
    rw [FileTree.Lister.shows_iff tidy_list, FileTree.Lister.shows_iff locked_list]
    simp [Artifacts.exploitsName]
  listableExploits _ := iff_of_true ⟨_, tidy_list_exploits⟩ ⟨_, locked_list_exploits⟩
  filesExploits _ name := by
    rw [FileTree.Lister.shows_iff tidy_list_exploits,
      FileTree.Lister.shows_iff locked_list_exploits]
    simp

def queueArtifacts : Artifacts where
  sources := [
    ⟨.vulnerable, queue.join "queue_vulnerabilities.cpp"⟩,
    ⟨.exploit, (queue.join "exploits").join "race.cpp"⟩]
  documentation := some (queue.join "README.md")

theorem discover_tidy : Artifacts.discover tidy queue = .ok queueArtifacts := by
  have hl : tidy.list queue = _ := tidy_list
  have hb : tidy.list (queue.join Artifacts.exploitsName) = _ := tidy_list_exploits
  simp only [Artifacts.discover, Artifacts.collect, Artifacts.sourcesOf, hl, hb]
  rfl

end Sample
end CourseAudit
