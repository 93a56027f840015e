import Mathlib.Data.List.Induction
import CourseAudit.Proofs.Discovery
import CourseAudit.Proofs.Walks

/-!
The discovery of a pattern as a walk through its directory that takes up one visit after the other.
The walk comes by every entry of the directory and of each directory in it, and by every one of
these that cannot be listed. Main statement: `Artifacts.discover_eq_survey`.
-/
namespace CourseAudit
namespace Artifacts

open FileTree (Entry Lister Visit)

/-! ### What a visit is worth -/

-- What has been found so far, the documentation with its rank.
structure Found where
  sources : List Artifact
  documentation : Option (Nat × Path)

-- The role of a file that a walk comes by.
def roleOn? (depth : Nat) (path : Path) : Option Role :=
  if depth = 1 then Role.ofFileName? path.fileName
  else if depth = 2 ∧ path.parent?.map Path.fileName = some exploitsName ∧
      ".cpp".toList.isSuffixOf path.fileName.toList then
    some .exploit
  else none

-- Sources can lie nowhere else.
def isRequired (directory path : Path) : Bool :=
  path.same directory ||
    (directory.join exploitsName).components.isPrefixOf path.components

-- Of two files of one rank the first one stays.
def better? (best : Option (Nat × Path)) (path : Path) : Option (Nat × Path) :=
  match documentationRank? path.fileName with
  | some rank => if best.all (rank < ·.1) then some (rank, path) else best
  | none => best

namespace Found

def addFile (found : Found) (depth : Nat) (path : Path) : Found :=
  match roleOn? depth path with
  | some role => { found with sources := found.sources ++ [⟨role, path⟩] }
  | none =>
    if depth = 1 then { found with documentation := better? found.documentation path } else found

def visit (directory : Path) (found : Found) : Visit → Except AuditFailure Found
  | .unlisted path e =>
    if isRequired directory path then
      .error (.directoryUnreadable path
        ["IO error for operation on " ++ path.text ++ ": " ++ e.message, e.message])
    else .ok found
  | .entry depth path .file => .ok (found.addFile depth path)
  | .entry .. => .ok found

end Found

def survey (list : Lister) (directory : Path) : Except AuditFailure Artifacts :=
  match list directory with
  | .error e => .error (.directoryUnreadable directory [e.message])
  | .ok _ => do
    let found ← (list.walk 2 1 directory).foldlM (Found.visit directory) ⟨[], none⟩
    .ok ⟨byRole found.sources, found.documentation.map (·.2)⟩

/-! ### Directories that have to be read -/

variable {list : Lister} {directory : Path} {name : String}

-- Of all that lies in the directory, only what is named as the one for exploits.
theorem isRequired_join (hn : Path.IsName name) :
    isRequired directory (directory.join name) = decide (name = exploitsName) := by
  rw [isRequired, Path.same, directory.components_join hn,
    directory.components_join isName_exploitsName]
  have hs : directory.components ++ [.name name] ≠ directory.components := by simp
  rw [decide_eq_false hs, Bool.false_or, Bool.eq_iff_iff, List.isPrefixOf_iff_prefix,
    List.prefix_append_right_inj, decide_eq_true_eq]
  simp [eq_comm]

/-! ### What an entry of the directory leads to -/

-- What has been found when everything is taken up that the walk comes by because of an entry.
def Found.after (list : Lister) (directory : Path) (found : Found) (e : Entry) :
    Except AuditFailure Found :=
  (Lister.visits (list.walk 1 2) 1 directory e).foldlM (Found.visit directory) found

theorem foldlM_walk {entries : List Entry} (h : list directory = .ok entries) (found : Found) :
    (list.walk 2 1 directory).foldlM (Found.visit directory) found =
      (entries.mergeSort FileTree.entryLe).foldlM (Found.after list directory) found := by
  rw [Lister.walk_of_ok h]
  generalize entries.mergeSort FileTree.entryLe = entries
  induction entries generalizing found
  case nil => rfl
  case cons e rest hi =>
    rw [List.flatMap_cons, List.foldlM_append, List.foldlM_cons]
    exact bind_congr hi

theorem survey_of_ok {entries : List Entry} (h : list directory = .ok entries) :
    survey list directory =
      ((entries.mergeSort FileTree.entryLe).foldlM (Found.after list directory) ⟨[], none⟩).map
        fun found => ⟨byRole found.sources, found.documentation.map (·.2)⟩ := by
  rw [survey, h]
  dsimp only
  rw [foldlM_walk h]
  rfl

variable {found : Found}

-- A source is no documentation.
theorem documentationRank?_of_role {role : Role} (h : Role.ofFileName? name = some role) :
    documentationRank? name = none := by
  have hs : ".cpp".toList <:+ name.toList := by
    have ⟨stem, hs, _⟩ := Option.bind_eq_some_iff.mp h
    exact ⟨stem, (Text.stripEnd?_eq_some_iff.mp hs).symm⟩
  cases hr : documentationRank? name
  case none => rfl
  case some rank =>
    cases documentationRank?_eq_some_iff.mp hr
    case poster hp =>
      rcases List.suffix_or_suffix_of_suffix hs hp with hc | hc
      all_goals exact absurd hc (by decide)
    all_goals exact absurd hs (by decide)

theorem after_file (hn : Path.IsName name) :
    found.after list directory ⟨name, .file⟩ =
      .ok ⟨found.sources ++ (topLevel? directory name).toList,
        better? found.documentation (directory.join name)⟩ := by
  have ha : found.after list directory ⟨name, .file⟩ =
      .ok (found.addFile 1 (directory.join name)) := rfl
  rw [ha, Found.addFile, roleOn?, if_pos rfl, directory.fileName_join hn, topLevel?]
  cases hr : Role.ofFileName? name
  case none => simp
  case some role => simp [better?, directory.fileName_join hn, documentationRank?_of_role hr]

theorem after_link : found.after list directory ⟨name, .link⟩ = .ok found := rfl

-- A directory is nothing by itself.
theorem after_directory_eq :
    found.after list directory ⟨name, .directory⟩ =
      (list.walk 1 2 (directory.join name)).foldlM (Found.visit directory) found := rfl

-- What the files of a directory in the directory of the pattern add.
def belowSources (directory : Path) (above : String) (names : List String) : List Artifact :=
  if above = exploitsName then names.filterMap (exploit? (directory.join above)) else []

theorem addFile_below {above : String} (ha : Path.IsName above) (hn : Path.IsName name) :
    found.addFile 2 ((directory.join above).join name) =
      { found with sources := found.sources ++ belowSources directory above [name] } := by
  have hr : roleOn? 2 ((directory.join above).join name) =
      if above = exploitsName ∧ ".cpp".toList.isSuffixOf name.toList then some .exploit
      else none := by
    simp only [roleOn?, Path.fileName_parent?_join _ ha hn, Path.fileName_join _ hn]
    simp
  have hf : [name].filterMap (exploit? (directory.join above)) =
      if ".cpp".toList.isSuffixOf name.toList then
        [⟨.exploit, (directory.join above).join name⟩]
      else [] := by
    rw [List.filterMap_cons, List.filterMap_nil, exploit?]
    cases ".cpp".toList.isSuffixOf name.toList <;> rfl
  rw [Found.addFile, hr, belowSources, hf]
  cases ".cpp".toList.isSuffixOf name.toList <;> by_cases he : above = exploitsName <;> simp [he]

theorem filesOf_cons (e : Entry) (rest : List Entry) :
    filesOf (e :: rest) = filesOf [e] ++ filesOf rest := by
  rw [filesOf, filesOf, filesOf, ← List.map_append, ← List.filter_append, List.singleton_append]

theorem belowSources_append (above : String) (names names' : List String) :
    belowSources directory above (names ++ names') =
      belowSources directory above names ++ belowSources directory above names' := by
  rw [belowSources, belowSources, belowSources]
  split
  case isTrue => exact List.filterMap_append
  case isFalse => rfl

theorem visit_entry_below {above : String} {e : Entry} (ha : Path.IsName above)
    (hn : Path.IsName e.name) :
    found.visit directory (.entry 2 ((directory.join above).join e.name) e.kind) =
      .ok { found with
        sources := found.sources ++ belowSources directory above (filesOf [e]) } := by
  obtain ⟨name, kind⟩ := e
  cases kind
  case file => exact congrArg Except.ok (addFile_below ha hn)
  all_goals
    have hb : belowSources directory above [] = [] := by simp [belowSources]
    simp [Found.visit, filesOf, hb]

-- By induction on the entries of a directory in the directory of the pattern.
theorem visit_below {above : String} {entries : List Entry} (ha : Path.IsName above)
    (hn : ∀ e ∈ entries, Path.IsName e.name) :
    (entries.map fun e => .entry 2 ((directory.join above).join e.name) e.kind).foldlM
        (Found.visit directory) found =
      .ok { found with
        sources := found.sources ++ belowSources directory above (filesOf entries) } := by
  induction entries generalizing found
  case nil => simp [belowSources, filesOf, pure, Except.pure]
  case cons e rest hi =>
    have ⟨he, hr⟩ := List.forall_mem_cons.mp hn
    rw [List.map_cons, List.foldlM_cons, visit_entry_below ha he, filesOf_cons e rest,
      belowSources_append, ← List.append_assoc]
    exact hi hr

theorem after_exploits_of_error {e : OsError} (hl : list (directory.join exploitsName) = .error e) :
    found.after list directory ⟨exploitsName, .directory⟩ =
      .error (.directoryUnreadable (directory.join exploitsName)
        ["IO error for operation on " ++ (directory.join exploitsName).text ++ ": " ++ e.message,
          e.message]) := by
  rw [after_directory_eq, Lister.walk_of_error hl]
  simp [Found.visit, isRequired_join isName_exploitsName, bind, Except.bind]

theorem after_exploits_of_ok {entries : List Entry}
    (hl : list (directory.join exploitsName) = .ok entries) :
    found.after list directory ⟨exploitsName, .directory⟩ =
      .ok { found with
        sources := found.sources ++ (filesOf (entries.mergeSort FileTree.entryLe)).filterMap
          (exploit? (directory.join exploitsName)) } := by
  rw [after_directory_eq, Lister.walk_one_of_ok hl,
    visit_below isName_exploitsName (Lister.isName_of_mem hl), belowSources, if_pos rfl]

-- Whether it can be listed or not.
theorem after_directory (hn : Path.IsName name) (hne : name ≠ exploitsName) :
    found.after list directory ⟨name, .directory⟩ = .ok found := by
  rw [after_directory_eq]
  cases hl : list (directory.join name)
  case error e =>
    rw [Lister.walk_of_error hl]
    simp [Found.visit, isRequired_join hn, hne, pure, Except.pure, bind, Except.bind]
  case ok entries =>
    rw [Lister.walk_one_of_ok hl, visit_below hn (Lister.isName_of_mem hl), belowSources,
      if_neg hne, List.append_nil]

/-! ### The documentation -/

-- The best one of all files.
def bestOf (directory : Path) (names : List String) : Option (Nat × Path) :=
  [0, 1, 2].findSome? fun rank =>
    (names.find? (documentationRank? · = some rank)).map fun name => (rank, directory.join name)

theorem bestOf_concat (hn : Path.IsName name) (names : List String) :
    bestOf directory (names ++ [name]) =
      better? (bestOf directory names) (directory.join name) := by
  rw [better?, directory.fileName_join hn, bestOf, bestOf]
  simp only [List.find?_append, List.find?_singleton, List.findSome?_cons, List.findSome?_nil]
  cases hr : documentationRank? name
  case none => simp
  case some rank =>
    have hm := (documentationRank?_eq_some_iff.mp hr).mem
    simp only [List.mem_cons, List.not_mem_nil, or_false] at hm
    have ho (rank : Nat) :=
      Option.eq_none_or_eq_some (names.find? (documentationRank? · = some rank))
    rcases ho 0 with h₀ | ⟨_, h₀⟩
    all_goals rcases ho 1 with h₁ | ⟨_, h₁⟩
    all_goals rcases ho 2 with h₂ | ⟨_, h₂⟩
    all_goals rcases hm with rfl | rfl | rfl <;> simp [h₀, h₁, h₂]

-- The best one so far, when the files among some entries are taken up one after the other.
def bestAfter (directory : Path) (best : Option (Nat × Path)) (entries : List Entry) :
    Option (Nat × Path) :=
  (filesOf entries).foldl (fun best name => better? best (directory.join name)) best

theorem bestAfter_cons (best : Option (Nat × Path)) (e : Entry) (rest : List Entry) :
    bestAfter directory best (e :: rest) =
      bestAfter directory (bestAfter directory best [e]) rest := by
  simp only [bestAfter, filesOf_cons e rest, List.foldl_append]

theorem bestAfter_eq {entries : List Entry} (hn : ∀ e ∈ entries, Path.IsName e.name) :
    bestAfter directory none entries = bestOf directory (filesOf entries) := by
  have hf : ∀ name ∈ filesOf entries, Path.IsName name :=
    fun name hm => hn _ (mem_filesOf.mp hm)
  rw [bestAfter]
  generalize filesOf entries = names at hf
  induction names using List.reverseRecOn
  case nil => rfl
  case append_singleton names name hi =>
    have ⟨hi', hl⟩ := List.forall_mem_append.mp hf
    rw [List.foldl_concat, hi hi', bestOf_concat (hl name (List.mem_singleton_self _))]

theorem map_bestOf (names : List String) :
    (bestOf directory names).map (·.2) = (documentationOf names).map directory.join := by
  simp only [bestOf, documentationOf, List.map_findSome?, Function.comp_def, Option.map_map]

/-! ### The discovery -/

variable {t : SoundTree}

theorem after_eq_sourcesOf {e : Entry} (hn : Path.IsName e.name) :
    found.after t.lister directory e =
      (sourcesOf t directory e).map fun here =>
        ⟨found.sources ++ here, bestAfter directory found.documentation [e]⟩ := by
  obtain ⟨name, kind⟩ := e
  cases kind
  case file => exact after_file hn
  case link => simp [after_link, sourcesOf, bestAfter, filesOf, Except.map]
  case directory =>
    by_cases he : name = exploitsName
    case neg =>
      rw [after_directory hn he]
      simp [sourcesOf, he, bestAfter, filesOf, Except.map]
    case pos =>
      subst he
      cases hl : t.list (directory.join exploitsName)
      case error e =>
        rw [after_exploits_of_error ((t.lister_apply _).trans hl)]
        simp [sourcesOf, hl, Except.map]
      case ok entries =>
        rw [after_exploits_of_ok ((t.lister_apply _).trans hl), SoundTree.mergeSort_list hl]
        simp [sourcesOf, hl, bestAfter, filesOf, Except.map]

theorem foldlM_after_eq_collect {entries : List Entry} (hn : ∀ e ∈ entries, Path.IsName e.name) :
    entries.foldlM (Found.after t.lister directory) found =
      (collect t directory entries).map fun sources =>
        ⟨found.sources ++ sources, bestAfter directory found.documentation entries⟩ := by
  induction entries generalizing found
  case nil => simp [collect, bestAfter, filesOf, Except.map, pure, Except.pure]
  case cons e rest hi =>
    obtain ⟨he, hr⟩ := List.forall_mem_cons.mp hn
    rw [List.foldlM_cons, after_eq_sourcesOf he, collect]
    cases sourcesOf t directory e
    case error => rfl
    case ok here =>
      simp only [Except.map, bind, Except.bind]
      rw [hi hr, bestAfter_cons _ e rest]
      cases collect t directory rest
      case error => rfl
      case ok behind => simp only [Except.map, List.append_assoc]

-- What is discovered is what a walk finds that comes by everything.
theorem discover_eq_survey (t : SoundTree) (directory : Path) :
    discover t directory = survey t.lister directory := by
  have ho := t.lister_apply directory
  cases hl : t.list directory
  case error => rw [discover, survey, ho, hl]
  case ok entries =>
    have hn := t.lister.isName (ho.trans hl)
    rw [discover, hl, survey_of_ok (ho.trans hl), SoundTree.mergeSort_list hl,
      foldlM_after_eq_collect hn]
    dsimp only
    cases collect t directory entries
    case error => rfl
    case ok sources =>
      simp only [Except.map, bind, Except.bind, List.nil_append]
      rw [bestAfter_eq hn, map_bestOf]

end Artifacts
end CourseAudit
