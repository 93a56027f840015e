import CourseAudit.Course.Search
import CourseAudit.Proofs.ByteOrder
import CourseAudit.Proofs.Walks

/-!
The patterns of a course as what a walk comes by two levels below its root. Main statement:
`Course.tour_enumerates` (they are the directories named as patterns in the directories named as
modules, in order).
-/
namespace CourseAudit
namespace Course

open FileTree (Entry Lister Visit)
open Text.Utf8 (encodeString encodeString_lt_iff)

/-! ### What a walk finds -/

-- A walk that has gone deep enough has come by a pattern.
def pattern? : Visit → Option Path
  | .entry 2 path .directory =>
    if isModuleName (moduleName path) && isPatternName path.fileName then some path else none
  | _ => none

def tour (list : Lister) (root : Path) : Except AuditFailure (List Path) :=
  match list root with
  | .error e => .error (.directoryUnreadable root [e.message])
  | .ok _ => .ok ((list.walk 2 1 root).filterMap pattern?)

-- A walk that stops at the first pattern.
def comesByPattern (list : Lister) (root : Path) : Bool :=
  (list.walk 2 1 root).any fun visit => (pattern? visit).isSome

/-! ### What there is to find -/

-- Two digits, a minus sign, and at least one character more.
def NamesModule (name : String) : Prop :=
  ∃ a b rest, name.toList = a :: b :: '-' :: rest ∧ a.isDigit = true ∧ b.isDigit = true ∧ rest ≠ []

def NamesPattern (name : String) : Prop :=
  ∃ rest, name.toList = "lesson_".toList ++ rest ∧ rest ≠ []

-- A directory that is a pattern, in a directory that is a module. Both are no links.
structure IsPattern (list : Lister) (root : Path) (module name : String) : Prop where
  aroundShown : list.Shows root module .directory
  aroundNamed : NamesModule module
  shown       : list.Shows (root.join module) name .directory
  named       : NamesPattern name

def patternPath (root : Path) (names : String × String) : Path :=
  (root.join names.1).join names.2

-- All patterns of a course, by module and then by name.
structure Enumerates (list : Lister) (root : Path) (names : List (String × String)) : Prop where
  mem_iff    : ∀ module name, (module, name) ∈ names ↔ IsPattern list root module name
  increasing : names.Pairwise fun p q => encodeString p.1 < encodeString q.1 ∨
    p.1 = q.1 ∧ encodeString p.2 < encodeString q.2
  nodup      : (names.map (patternPath root)).Nodup

variable {list : Lister} {root directory : Path} {module name : String}

/-! ### Names -/

theorem isModuleName_iff : isModuleName name = true ↔ NamesModule name := by
  rw [isModuleName, NamesModule]
  split
  case h_1 a b c rest h => simp [h]
  case h_2 hn =>
    refine iff_of_false nofun ?_
    rintro ⟨a, b, _ | ⟨c, rest⟩, h, -, -, hr⟩
    case nil => exact hr rfl
    case cons => exact hn a b c rest h

-- By delta: a `simp` with the definition would evaluate the text.
theorem lessonMark_eq : lessonMark = "lesson_".toList := by
  delta lessonMark
  rfl

theorem isPatternName_iff : isPatternName name = true ↔ NamesPattern name := by
  rw [isPatternName, NamesPattern]
  simp only [← lessonMark_eq, ← Text.stripStart?_eq_some_iff]
  split
  case h_1 c rest h => exact iff_of_true rfl ⟨c :: rest, h, nofun⟩
  case h_2 hn =>
    refine iff_of_false nofun ?_
    rintro ⟨_ | ⟨c, rest⟩, h, hr⟩
    case nil => exact hr rfl
    case cons => exact hn c rest h

section

variable (root) (hm : Path.IsName module) (hn : Path.IsName name)
include hm hn

theorem moduleName_join : moduleName ((root.join module).join name) = module := by
  have hp := root.fileName_parent?_join hm hn
  rw [moduleName]
  cases hq : ((root.join module).join name).parent? <;> rw [hq] at hp
  case none => cases hp
  case some => exact Option.some.inj hp

theorem pattern?_entry (kind : Kind) :
    pattern? (.entry 2 ((root.join module).join name) kind) =
      if kind = .directory ∧ isModuleName module = true ∧ isPatternName name = true then
        some (patternPath root (module, name))
      else none := by
  cases kind
  case directory =>
    simp only [pattern?, moduleName_join root hm hn, Path.fileName_join _ hn, Bool.and_eq_true,
      true_and]
    rfl
  all_goals rfl

end

/-! ### The directories in a directory -/

-- In order; none if the directory cannot be listed.
def directoriesIn (list : Lister) (p : Path) : List String :=
  match list p with
  | .ok entries => ((entries.mergeSort FileTree.entryLe).filter (·.kind = .directory)).map (·.name)
  | .error _ => []

theorem directoriesIn_of_error {e : OsError} (h : list directory = .error e) :
    directoriesIn list directory = [] := by
  rw [directoriesIn, h]

theorem directoriesIn_of_ok {entries : List Entry} (h : list directory = .ok entries) :
    directoriesIn list directory =
      ((entries.mergeSort FileTree.entryLe).filter (·.kind = .directory)).map (·.name) := by
  rw [directoriesIn, h]

theorem mem_directoriesIn :
    name ∈ directoriesIn list directory ↔ list.Shows directory name .directory := by
  cases hl : list directory
  case error e =>
    rw [directoriesIn_of_error hl]
    refine iff_of_false List.not_mem_nil fun h => ?_
    exact FileTree.Lister.not_listable_iff.mpr ⟨e, hl⟩ h.listable
  case ok entries =>
    rw [directoriesIn_of_ok hl, FileTree.mem_names_of_kind, List.mem_mergeSort,
      FileTree.Lister.shows_iff hl]

theorem directoriesIn_increasing (list : Lister) (directory : Path) :
    (directoriesIn list directory).Pairwise (· < ·) := by
  cases hl : list directory
  case error e =>
    rw [directoriesIn_of_error hl]
    exact .nil
  case ok entries =>
    rw [directoriesIn_of_ok hl]
    exact List.pairwise_map.mpr ((Lister.increasing hl).filter _)

/-! ### The walk -/

-- The names of the patterns in a module.
def namesIn (list : Lister) (root : Path) (module : String) : List (String × String) :=
  ((directoriesIn list (root.join module)).filter isPatternName).map (module, ·)

def namesBelow (list : Lister) (root : Path) : List (String × String) :=
  ((directoriesIn list root).filter isModuleName).flatMap (namesIn list root)

-- By induction on the entries of the module.
theorem filterMap_entries_below {entries : List Entry} (hm : Path.IsName module)
    (hn : ∀ e ∈ entries, Path.IsName e.name) :
    (entries.map fun e => .entry 2 ((root.join module).join e.name) e.kind).filterMap pattern? =
      if isModuleName module then
        ((((entries.filter (·.kind = .directory)).map (·.name)).filter isPatternName).map
          (module, ·)).map (patternPath root)
      else [] := by
  induction entries
  case nil => simp
  case cons e rest hi =>
    have ⟨he, hr⟩ := List.forall_mem_cons.mp hn
    rw [List.map_cons, List.filterMap_cons, hi hr, pattern?_entry root hm he]
    by_cases hk : e.kind = .directory <;> by_cases hp : isPatternName e.name <;>
      by_cases hmod : isModuleName module <;> simp [hk, hp, hmod]

theorem filterMap_walk_below (list : Lister) (root : Path) (hm : Path.IsName module) :
    (list.walk 1 2 (root.join module)).filterMap pattern? =
      if isModuleName module then (namesIn list root module).map (patternPath root) else [] := by
  cases hl : list (root.join module)
  case error e =>
    rw [Lister.walk_of_error hl, namesIn, directoriesIn_of_error hl]
    simp [pattern?]
  case ok entries =>
    rw [Lister.walk_one_of_ok hl, filterMap_entries_below hm (Lister.isName_of_mem hl), namesIn,
      directoriesIn_of_ok hl]

-- By induction on the entries of the root.
theorem filterMap_visits {entries : List Entry} (hn : ∀ e ∈ entries, Path.IsName e.name) :
    (entries.flatMap (Lister.visits (list.walk 1 2) 1 root)).filterMap pattern? =
      ((((entries.filter (·.kind = .directory)).map (·.name)).filter isModuleName).flatMap
        (namesIn list root)).map (patternPath root) := by
  induction entries
  case nil => simp
  case cons e rest hi =>
    have ⟨he, hr⟩ := List.forall_mem_cons.mp hn
    rw [List.flatMap_cons, List.filterMap_append, hi hr, Lister.visits]
    have hp (kind : Kind) : pattern? (.entry 1 (root.join e.name) kind) = none := rfl
    rw [List.filterMap_cons, hp]
    by_cases hk : e.kind = .directory
    case neg => simp [hk]
    case pos =>
      have hb := filterMap_walk_below list root he
      by_cases hmod : isModuleName e.name <;> simp [hk, hmod, hb]

theorem filterMap_walk (list : Lister) (root : Path) :
    (list.walk 2 1 root).filterMap pattern? = (namesBelow list root).map (patternPath root) := by
  cases hl : list root
  case error e =>
    rw [Lister.walk_of_error hl, namesBelow, directoriesIn_of_error hl]
    simp [pattern?]
  case ok entries =>
    rw [Lister.walk_of_ok hl, filterMap_visits (Lister.isName_of_mem hl), namesBelow,
      directoriesIn_of_ok hl]

/-! ### The patterns -/

theorem mem_namesBelow :
    (module, name) ∈ namesBelow list root ↔ IsPattern list root module name := by
  simp only [namesBelow, namesIn, List.mem_flatMap, List.mem_map, List.mem_filter,
    mem_directoriesIn, isModuleName_iff, isPatternName_iff]
  constructor
  case mp =>
    rintro ⟨_, ⟨hs, hm⟩, _, ⟨hp, hn⟩, ⟨⟩⟩
    exact ⟨hs, hm, hp, hn⟩
  case mpr => exact fun h => ⟨_, ⟨h.aroundShown, h.aroundNamed⟩, _, ⟨h.shown, h.named⟩, rfl⟩

theorem namesBelow_increasing (list : Lister) (root : Path) :
    (namesBelow list root).Pairwise fun p q => p.1 < q.1 ∨ p.1 = q.1 ∧ p.2 < q.2 := by
  refine List.pairwise_flatMap.mpr ⟨fun module _ => ?_, ?_⟩
  case refine_1 =>
    refine List.pairwise_map.mpr (((directoriesIn_increasing list _).filter _).imp ?_)
    exact fun hlt => .inr ⟨rfl, hlt⟩
  case refine_2 =>
    refine ((directoriesIn_increasing list root).filter _).imp fun {m m'} hlt p hp q hq => ?_
    obtain ⟨_, -, rfl⟩ := List.mem_map.mp hp
    obtain ⟨_, -, rfl⟩ := List.mem_map.mp hq
    exact .inl hlt

namespace IsPattern

variable (h : IsPattern list root module name)
include h

theorem moduleName_path : moduleName (patternPath root (module, name)) = module :=
  moduleName_join root h.aroundShown.isName h.shown.isName

theorem fileName_path : (patternPath root (module, name)).fileName = name :=
  Path.fileName_join _ h.shown.isName

end IsPattern

theorem namesBelow_enumerates (list : Lister) (root : Path) :
    Enumerates list root (namesBelow list root) where
  mem_iff _ _ := mem_namesBelow
  increasing := by
    simp only [encodeString_lt_iff]
    exact namesBelow_increasing list root
  nodup := by
    refine List.pairwise_map.mpr ((namesBelow_increasing list root).imp_of_mem ?_)
    rintro ⟨module, name⟩ ⟨module', name'⟩ hp hq hlt he
    have hp := mem_namesBelow.mp hp
    have hq := mem_namesBelow.mp hq
    have hm : module = module' := by rw [← hp.moduleName_path, he, hq.moduleName_path]
    have hn : name = name' := by rw [← hp.fileName_path, he, hq.fileName_path]
    subst hm hn
    rcases hlt with hlt | ⟨-, hlt⟩
    case inl => exact String.lt_irrefl _ hlt
    case inr => exact String.lt_irrefl _ hlt

theorem tour_of_ok {entries : List Entry} (h : list root = .ok entries) :
    tour list root = .ok ((namesBelow list root).map (patternPath root)) := by
  rw [tour, h, ← filterMap_walk]

theorem tour_eq_error_iff {failure : AuditFailure} :
    tour list root = .error failure ↔
      ∃ e, list root = .error e ∧ failure = .directoryUnreadable root [e.message] := by
  rw [tour]
  cases list root <;> simp [eq_comm]

theorem comesByPattern_eq (list : Lister) (root : Path) :
    comesByPattern list root = !((list.walk 2 1 root).filterMap pattern?).isEmpty := by
  rw [comesByPattern, Bool.eq_iff_iff, Bool.not_eq_true', List.isEmpty_eq_false_iff]
  simp only [List.any_eq_true, ne_eq, List.filterMap_eq_nil_iff, not_forall, exists_prop,
    Option.isSome_iff_ne_none]

-- A root that cannot be listed has no patterns either way.
theorem comesByPattern_iff :
    comesByPattern list root = true ↔ ∃ paths, tour list root = .ok paths ∧ paths ≠ [] := by
  rw [comesByPattern_eq, filterMap_walk, Bool.not_eq_true', List.isEmpty_eq_false_iff]
  cases hl : list root
  case error e => simp [tour, hl, namesBelow, directoriesIn_of_error hl]
  case ok => simp [tour_of_ok hl]

/-! ### Trees of files -/

theorem subdirectories_eq (t : SoundTree) (p : Path) :
    subdirectories t p = directoriesIn t.lister p := by
  have ho := t.lister_apply p
  rw [subdirectories]
  cases hl : t.list p
  case error => rw [directoriesIn_of_error (ho.trans hl)]
  case ok => rw [directoriesIn_of_ok (ho.trans hl), SoundTree.mergeSort_list hl]

theorem patternsBelow_eq (t : SoundTree) (root : Path) :
    patternsBelow t root = (namesBelow t.lister root).map (patternPath root) := by
  rw [patternsBelow, namesBelow, List.map_flatMap, subdirectories_eq]
  refine List.flatMap_congr fun module _ => ?_
  rw [patternsOfModule, subdirectories_eq, namesIn, List.map_map]
  rfl

theorem findPatterns_eq_tour (t : SoundTree) (root : Path) :
    findPatterns t root = tour t.lister root := by
  have ho := t.lister_apply root
  rw [findPatterns]
  cases hl : t.list root
  case error => rw [tour, ho, hl]
  case ok => rw [tour_of_ok (ho.trans hl), patternsBelow_eq]

theorem isRoot_eq (t : SoundTree) (root : Path) :
    isRoot t root = (t.isFile (root.join configFileName) || comesByPattern t.lister root) := by
  rw [isRoot, comesByPattern_eq, filterMap_walk, patternsBelow_eq]

-- Whatever a disk holds and whichever of its directories are closed, the patterns of a course are
-- found, each once and in order, unless the root itself cannot be listed.
theorem tour_enumerates (list : Lister) (root : Path) :
    (list.Listable root → ∃ names, Enumerates list root names ∧
      tour list root = .ok (names.map (patternPath root))) ∧
    (∀ failure, tour list root = .error failure ↔
      ∃ e, list root = .error e ∧ failure = .directoryUnreadable root [e.message]) ∧
    (comesByPattern list root = true ↔ ∃ paths, tour list root = .ok paths ∧ paths ≠ []) ∧
    ∀ t : SoundTree,
      findPatterns t root = tour t.lister root ∧
      isRoot t root = (t.isFile (root.join configFileName) || comesByPattern t.lister root) := by
  refine ⟨?_, fun _ => tour_eq_error_iff, comesByPattern_iff, fun t => ?_⟩
  case refine_1 =>
    rintro ⟨entries, hl⟩
    exact ⟨_, namesBelow_enumerates list root, tour_of_ok hl⟩
  case refine_2 => exact ⟨findPatterns_eq_tour t root, isRoot_eq t root⟩

end Course

namespace Sample

-- A course with much else in it.
def syllabus : SoundTree where
  root := .directory [
    ("03-creational", .directory [
      ("lesson_", .directory []),
      ("lesson_3_1_singleton", .directory []),
      ("notes", .directory [("lesson_9_9_deep", .directory [])])]),
    ("07-concurrency", .directory [
      ("lesson_7_1_queue", .directory []),
      ("lesson_7_2_pool", .link "/03-creational/lesson_3_1_singleton")]),
    ("08-io", .directory [("lesson_8_1_pipe", .directory [])]),
    ("appendix", .directory [("lesson_10_1_index", .directory [])])]
  cwd := []
  sound := by decide +kernel

-- One of its modules cannot be read.
def guarded : FileTree.Lister :=
  syllabus.lister.closing fun directory => directory = ⟨"/08-io"⟩

theorem guarded_list : guarded ⟨"/"⟩ =
    .ok [⟨"03-creational", .directory⟩, ⟨"07-concurrency", .directory⟩, ⟨"08-io", .directory⟩,
      ⟨"appendix", .directory⟩] :=
  congrArg Except.ok (List.mergeSort_of_pairwise (by decide +kernel))

theorem guarded_list_creational : guarded (Path.join ⟨"/"⟩ "03-creational") =
    .ok [⟨"lesson_", .directory⟩, ⟨"lesson_3_1_singleton", .directory⟩, ⟨"notes", .directory⟩] :=
  congrArg Except.ok (List.mergeSort_of_pairwise (by decide +kernel))

theorem isPattern_singleton :
    Course.IsPattern guarded ⟨"/"⟩ "03-creational" "lesson_3_1_singleton" where
  aroundShown := (FileTree.Lister.shows_iff guarded_list).mpr (by simp)
  aroundNamed := Course.isModuleName_iff.mp (by decide +kernel)
  shown       := (FileTree.Lister.shows_iff guarded_list_creational).mpr (by simp)
  named       := Course.isPatternName_iff.mp (by decide +kernel)

-- A module that cannot be read hides its patterns, and no others.
theorem patterns_of_guarded_course :
    ∃ names, Course.Enumerates guarded ⟨"/"⟩ names ∧
      Course.tour guarded ⟨"/"⟩ = .ok (names.map (Course.patternPath ⟨"/"⟩)) ∧
      ("03-creational", "lesson_3_1_singleton") ∈ names ∧ ∀ name, ("08-io", name) ∉ names := by
  have ⟨ht, _⟩ := Course.tour_enumerates guarded ⟨"/"⟩
  have ⟨names, he, hn⟩ := ht ⟨_, guarded_list⟩
  refine ⟨names, he, hn, (he.mem_iff ..).mpr isPattern_singleton, fun name hm => ?_⟩
  have ⟨entries, hl, _⟩ := ((he.mem_iff ..).mp hm).shown
  have hc : guarded (Path.join ⟨"/"⟩ "08-io") = .error .permissionDenied := rfl
  cases hc.symm.trans hl

end Sample
end CourseAudit
