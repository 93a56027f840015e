import Mathlib.Data.List.Forall2
import CourseAudit.Proofs.CheckNames
import CourseAudit.Proofs.Listing

/-!
What a validation makes of the way its directory is written. The module and the name of a pattern
are read off the text of the path, so they are the same for all spellings of one directory that name
the directory and the one around it. Main statement: `Auditor.validate_spelling`.
-/
namespace CourseAudit

-- Two sources that go by the same name in the same role.
structure Artifact.Alike (a a' : Artifact) : Prop where
  role     : a.role = a'.role
  fileName : a.fileName = a'.fileName

/-! ### The names of the checks -/

namespace Auditor

variable (v : Auditor) {sources sources' : List Artifact}

theorem sanitizeNames_alike {a a' : Artifact} (h : a.Alike a') (module : String) :
    v.sanitizeNames module a = v.sanitizeNames module a' := by
  rw [sanitizeNames, sanitizeNames, h.role, h.fileName]

theorem compileNames_alike (h : List.Forall₂ Artifact.Alike sources sources') :
    compileNames sources = compileNames sources' := by
  induction h
  case nil => rfl
  case cons h _ hi => exact congrArg₂ List.cons (congrArg _ h.fileName) hi

theorem analyzeNames_alike (h : List.Forall₂ Artifact.Alike sources sources') (analyzer : String) :
    v.analyzeNames sources analyzer = v.analyzeNames sources' analyzer := by
  induction h
  case nil => rfl
  case cons h _ hi =>
    simp only [analyzeNames, List.filter_cons, h.role] at hi ⊢
    split <;> simp only [List.map_cons, h.fileName, hi]

-- The names of the checks that the plan holds follow from the roles and the names of the sources.
theorem names_steps_alike (h : List.Forall₂ Artifact.Alike sources sources') (mode : Mode)
    (module : String) :
    (v.steps mode module sources).flatMap Step.names =
      (v.steps mode module sources').flatMap Step.names := by
  have hs :
      sources.flatMap (v.sanitizeNames module) = sources'.flatMap (v.sanitizeNames module) := by
    induction h
    case nil => rfl
    case cons h _ hi => rw [List.flatMap_cons, List.flatMap_cons, v.sanitizeNames_alike h, hi]
  rw [names_steps, names_steps, compileNames_alike h, hs, funext (v.analyzeNames_alike h)]

-- A scorecard of a validation that came to its end, as far as no tool had a say in it.
theorem names_of_validate_ok {v : Auditor} {σ : Type} {files : FileTree} {host : Host σ}
    {directory : Path} {options : Options} {s : Session σ} {card : Scorecard}
    (hv : (v.validate files host directory options s).1 = .ok card) :
    ∃ artifacts, Artifacts.discover files directory = .ok artifacts ∧
      card.module = Course.moduleName directory ∧
      card.patternName = Course.patternName directory ∧
      card.results.map (·.name) = ["discover:vulnerable", "discover:secure"] ++
        (if options.skipBuild then []
          else (v.steps options.mode card.module artifacts.sources).flatMap Step.names) ++
        ["documentation"] := by
  have ⟨artifacts, results, hd, hc, h⟩ := validate_ok hv
  subst hc
  refine ⟨artifacts, hd, rfl, rfl, ?_⟩
  simp only [scorecard, List.map_append, artifacts.presences_names, Documentation.check_name,
    List.map_singleton]
  congr 2
  rcases h with ⟨ho, rfl⟩ | ⟨ho, _, _, _, _, _, hb⟩
  case inl => rw [if_pos ho]; rfl
  case inr =>
    cases hb
    case opened hs => rw [hs.names_eq, if_neg (by simp [ho])]

end Auditor

/-! ### The sources below two spellings of one directory -/

namespace Path

theorem exists_text_join (p : Path) (name : String) :
    ∃ front, (p.join name).text.toList = front ++ name.toList := by
  rw [join]
  split
  case isTrue => exact ⟨[], rfl⟩
  case isFalse =>
    split
    case isTrue => exact ⟨p.text.toList, String.toList_append⟩
    case isFalse => exact ⟨p.text.toList ++ "/".toList, by simp⟩

theorem isName_of_suffix {name ending : String} (hf : '/' ∉ name.toList)
    (hs : ending.toList <:+ name.toList) (hl : 2 < ending.toList.length) : IsName name := by
  have hlong (short : String) (h : short.toList.length ≤ 2) : name ≠ short := by
    rintro rfl
    have := hs.length_le
    omega
  exact ⟨hf, hlong _ (by decide), hlong _ (by decide), hlong _ (by decide)⟩

-- An ending without a slash is one of what follows the last slash.
theorem suffix_of_suffix_append {ending front back : List Char} (he : '/' ∉ ending)
    (h : ending <:+ front ++ '/' :: back) : ending <:+ back := by
  rcases List.suffix_or_suffix_of_suffix h (List.suffix_append ..) with hb | hb
  case inl =>
    rcases List.suffix_cons_iff.mp hb with rfl | hb
    · exact (he List.mem_cons_self).elim
    · exact hb
  case inr => exact (he <| hb.subset List.mem_cons_self).elim

-- The file name of a source below a path does not depend on the path.
theorem exists_fileName_join {name : String} (h : ".cpp".toList <:+ name.toList) :
    ∃ last, ∀ p : Path, (p.join name).fileName = last := by
  by_cases hs : '/' ∈ name.toList
  case neg =>
    have hn := isName_of_suffix hs h (by decide)
    exact ⟨name, fun p => p.fileName_join hn⟩
  case pos =>
    obtain ⟨back, front, hr, hb⟩ := List.eq_append_cons_of_mem (List.mem_reverse.mpr hs)
    let last := String.ofList back.reverse
    have hname : name.toList = front.reverse ++ '/' :: last.toList := by
      rw [← List.reverse_reverse name.toList, hr]
      simp [last]
    have hflat : '/' ∉ last.toList := by simpa [last] using hb
    have hn : IsName last :=
      isName_of_suffix hflat (suffix_of_suffix_append (by decide) (hname ▸ h)) (by decide)
    refine ⟨last, fun p => ?_⟩
    obtain ⟨more, hm⟩ := p.exists_text_join name
    have ht : (p.join name).text.toList = more ++ front.reverse ++ '/' :: last.toList := by
      rw [hm, hname, List.append_assoc]
    rw [fileName_eq, components_of_slash _ hn ht, lastName_concat]

end Path

namespace FileTree

variable {t : FileTree} {p q : Path} {place : Place} {entries entries' : List Entry}

-- What a directory holds below two paths to one place.
theorem list_join_eq {name : String} (hn : '/' ∉ name.toList)
    (hp : t.resolve true p.text = .ok place) (hq : t.resolve true q.text = .ok place)
    (h : t.list (p.join name) = .ok entries) (h' : t.list (q.join name) = .ok entries') :
    entries = entries' := by
  have ⟨below, hb⟩ := exists_resolve_of_list h
  have ⟨below', hb'⟩ := exists_resolve_of_list h'
  cases resolve_join_eq hn hp hq hb hb'
  exact Except.ok.inj <| h.symm.trans <| (list_eq hb hb').trans h'

end FileTree

namespace Artifacts

open Artifact (Alike)

variable {t : FileTree} {p q : Path} {place : FileTree.Place} {sources sources' : List Artifact}

theorem alike_join (role : Role) {name : String} (h : ".cpp".toList <:+ name.toList) (p q : Path) :
    Alike ⟨role, p.join name⟩ ⟨role, q.join name⟩ := by
  have ⟨last, hl⟩ := Path.exists_fileName_join h
  exact ⟨rfl, (hl p).trans (hl q).symm⟩

theorem topLevel?_alike (p q : Path) (name : String) :
    List.Forall₂ Alike (topLevel? p name).toList (topLevel? q name).toList := by
  rw [topLevel?, topLevel?]
  cases hr : Role.ofFileName? name
  case none => exact .nil
  case some role =>
    have ⟨stem, hs, _⟩ := Option.bind_eq_some_iff.mp hr
    have hn : ".cpp".toList <:+ name.toList :=
      ⟨stem, (Text.stripEnd?_eq_some_iff.mp hs).symm⟩
    exact .cons (alike_join role hn p q) .nil

theorem exploit?_alike (p q : Path) (name : String) :
    Option.Rel Alike (exploit? p name) (exploit? q name) := by
  rw [exploit?, exploit?]
  split
  case isTrue h => exact .some <| alike_join .exploit (List.isSuffixOf_iff_suffix.mp h) p q
  case isFalse => exact .none

theorem exploits_alike (p q : Path) (names : List String) :
    List.Forall₂ Alike (names.filterMap (exploit? p)) (names.filterMap (exploit? q)) := by
  refine List.rel_filterMap ?_ (List.forall₂_eq_eq_eq ▸ rfl : List.Forall₂ Eq names names)
  rintro name _ rfl
  exact exploit?_alike p q name

-- What one entry leads to, if it can be read by both paths.
theorem sourcesOf_alike {entry : FileTree.Entry} (hp : t.resolve true p.text = .ok place)
    (hq : t.resolve true q.text = .ok place) (h : sourcesOf t p entry = .ok sources)
    (h' : sourcesOf t q entry = .ok sources') : List.Forall₂ Alike sources sources' := by
  cases hk : entry.kind <;> simp only [sourcesOf, hk] at h h'
  case file =>
    cases h
    cases h'
    exact topLevel?_alike ..
  case link =>
    cases h
    cases h'
    exact .nil
  case directory =>
    by_cases hn : entry.name = exploitsName
    case neg =>
      simp only [if_neg hn] at h h'
      cases h
      cases h'
      exact .nil
    case pos =>
      simp only [if_pos hn] at h h'
      cases he : t.list (p.join exploitsName) <;> simp only [he] at h
      case error => cases h
      case ok =>
        cases he' : t.list (q.join exploitsName) <;> simp only [he'] at h'
        case error => cases h'
        case ok =>
          cases FileTree.list_join_eq (by decide) hp hq he he'
          cases h
          cases h'
          exact exploits_alike ..

-- A collection is one for every entry.
theorem collect_cons_eq_ok {entry : FileTree.Entry} {rest : List FileTree.Entry}
    (h : collect t p (entry :: rest) = .ok sources) :
    ∃ here behind, sourcesOf t p entry = .ok here ∧ collect t p rest = .ok behind ∧
      sources = here ++ behind := by
  rw [collect] at h
  cases hs : sourcesOf t p entry <;> rw [hs] at h
  case error => cases h
  case ok here =>
    cases hc : collect t p rest <;> rw [hc] at h
    case error => cases h
    case ok behind => cases h; exact ⟨here, behind, rfl, rfl, rfl⟩

theorem collect_alike {entries : List FileTree.Entry} (hp : t.resolve true p.text = .ok place)
    (hq : t.resolve true q.text = .ok place) (h : collect t p entries = .ok sources)
    (h' : collect t q entries = .ok sources') : List.Forall₂ Alike sources sources' := by
  induction entries generalizing sources sources'
  case nil => cases h; cases h'; exact .nil
  case cons entry rest hi =>
    obtain ⟨_, _, hs, hc, rfl⟩ := collect_cons_eq_ok h
    obtain ⟨_, _, hs', hc', rfl⟩ := collect_cons_eq_ok h'
    exact List.rel_append (sourcesOf_alike hp hq hs hs') (hi hc hc')

theorem byRole_alike (h : List.Forall₂ Alike sources sources') :
    List.Forall₂ Alike (byRole sources) (byRole sources') := by
  have hr (role : Role) : List.Forall₂ Alike (sources.filter (·.role = role))
      (sources'.filter (·.role = role)) :=
    List.rel_filter (fun _ _ h => by simp [h.role]) h
  simp only [byRole, Role.all, List.flatMap_cons, List.flatMap_nil]
  exact List.rel_append (hr _) <| List.rel_append (hr _) <| List.rel_append (hr _) .nil

theorem discover_eq_ok {artifacts : Artifacts} (h : discover t p = .ok artifacts) :
    ∃ entries sources, t.list p = .ok entries ∧ collect t p entries = .ok sources ∧
      artifacts = ⟨byRole sources, (documentationOf (filesOf entries)).map p.join⟩ := by
  rw [discover] at h
  cases hl : t.list p <;> simp only [hl] at h
  case error => cases h
  case ok entries =>
    cases hc : collect t p entries <;> rw [hc] at h
    case error => cases h
    case ok sources => cases h; exact ⟨entries, sources, rfl, hc, rfl⟩

-- What is found in a directory goes by the same names and has the same roles by both paths.
theorem discover_alike {artifacts artifacts' : Artifacts}
    (hp : t.resolve true p.text = .ok place) (hq : t.resolve true q.text = .ok place)
    (h : discover t p = .ok artifacts) (h' : discover t q = .ok artifacts') :
    List.Forall₂ Alike artifacts.sources artifacts'.sources := by
  obtain ⟨_, _, hl, hc, rfl⟩ := discover_eq_ok h
  obtain ⟨_, _, hl', hc', rfl⟩ := discover_eq_ok h'
  cases hl.symm.trans <| (FileTree.list_eq hp hq).trans hl'
  exact byRole_alike (collect_alike hp hq hc hc')

end Artifacts

/-! ### Spellings -/

-- The name of a module is the name before the last, and nothing if the text has no name there.
theorem Course.moduleName_eq (p : Path) : Course.moduleName p = Path.lastName p.steps.dropLast := by
  rw [Course.moduleName]
  split
  case h_1 hq =>
    rw [Path.fileName_eq, Path.components_of_parent? hq, Path.lastName_dropLast_components]
  case h_2 hn => rw [Path.steps_of_parent?_eq_none hn]; rfl

-- So a text with a name and nothing before it names no module.
theorem Course.moduleName_of_lone {p : Path} (h : p.steps.length < 2) :
    Course.moduleName p = "" := by
  have hd : p.steps.dropLast = [] := by
    rw [← List.length_eq_zero_iff, List.length_dropLast]
    omega
  rw [Course.moduleName_eq, hd]
  rfl

namespace FileTree

variable (t : FileTree) {p : Path}

-- The steps to the end of a path from the root, as the text and the current directory give them.
-- Dots and slashes in excess are no steps, so absolute, relative and dotted spellings of one way
-- through the tree have the same steps.
def spelledOut (p : Path) : List Path.Component :=
  (if p.isAbsolute then [] else t.cwd.map .name) ++ p.steps

variable {t}

theorem fileName_of_spelledOut (h : p.steps ≠ []) :
    p.fileName = Path.lastName (t.spelledOut p) := by
  rw [Path.fileName_eq_steps, spelledOut, Path.lastName_append h]

-- The module is named in the text if two steps are.
theorem moduleName_of_spelledOut (h : 2 ≤ p.steps.length) :
    Course.moduleName p = Path.lastName (t.spelledOut p).dropLast := by
  have hne : p.steps ≠ [] := List.ne_nil_of_length_pos (by omega)
  have hd : p.steps.dropLast ≠ [] :=
    List.ne_nil_of_length_pos (by rw [List.length_dropLast]; omega)
  rw [Course.moduleName_eq, spelledOut, List.dropLast_append_of_ne_nil hne, Path.lastName_append hd]

end FileTree

namespace Auditor

-- It makes no difference which of two spellings is used for a directory, as long as both name it
-- and the directory around it: the pattern belongs to the same module, so the same checks are made.
theorem validate_spelling {v : Auditor} {files : FileTree} {p q : Path} {place : FileTree.Place}
    (hp : files.resolve true p.text = .ok place) (hq : files.resolve true q.text = .ok place)
    (hs : files.spelledOut p = files.spelledOut q) (hpn : 2 ≤ p.steps.length)
    (hqn : 2 ≤ q.steps.length) :
    Course.moduleName p = Course.moduleName q ∧ Course.patternName p = Course.patternName q ∧
    v.sanitizersFor (Course.moduleName p) = v.sanitizersFor (Course.moduleName q) ∧
    ∀ {σ σ' : Type} (host : Host σ) (host' : Host σ') (options : Options) (s : Session σ)
      (s' : Session σ') (card card' : Scorecard),
      (v.validate files host p options s).1 = .ok card →
      (v.validate files host' q options s').1 = .ok card' →
      card.module = card'.module ∧ card.patternName = card'.patternName ∧
        card.results.map (·.name) = card'.results.map (·.name) := by
  have hm : Course.moduleName p = Course.moduleName q := by
    rw [files.moduleName_of_spelledOut hpn, files.moduleName_of_spelledOut hqn, hs]
  have hn : Course.patternName p = Course.patternName q := by
    have hpn : p.steps ≠ [] := List.ne_nil_of_length_pos (by omega)
    have hqn : q.steps ≠ [] := List.ne_nil_of_length_pos (by omega)
    rw [Course.patternName, Course.patternName, files.fileName_of_spelledOut hpn,
      files.fileName_of_spelledOut hqn, hs]
  refine ⟨hm, hn, congrArg _ hm, fun host host' options s s' card card' hv hv' => ?_⟩
  have ⟨artifacts, hd, hc, hcn, hr⟩ := names_of_validate_ok hv
  have ⟨artifacts', hd', hc', hcn', hr'⟩ := names_of_validate_ok hv'
  have hcm : card.module = card'.module := hc.trans <| hm.trans hc'.symm
  have ha := Artifacts.discover_alike hp hq hd hd'
  refine ⟨hcm, hcn.trans <| hn.trans hcn'.symm, ?_⟩
  rw [hr, hr', hcm, v.names_steps_alike ha]

end Auditor

namespace Sample

open FileTree (Place)

def place : Place := ["07-concurrency", "lesson_7_1_queue"]

-- The course, as seen from the module of the pattern.
def inside : FileTree :=
  { files with cwd := ["07-concurrency"] }

def lone : Path := ⟨"lesson_7_1_queue"⟩

def dotted : Path := ⟨"./07-concurrency/lesson_7_1_queue/."⟩

theorem list_of_resolve {t : FileTree} {p : Path} (ht : t.root = files.root)
    (h : t.resolve true p.text = .ok place) :
    t.list p = .ok [⟨"README.md", .file⟩, ⟨"queue_exploits.cpp", .file⟩,
      ⟨"queue_vulnerabilities.cpp", .file⟩, ⟨"secure_queue_alternatives.cpp", .file⟩] := by
  rw [FileTree.list, FileTree.node, h, ht]
  exact congrArg Except.ok (List.mergeSort_of_pairwise (by decide +kernel))

def artifactsAt (p : Path) : Artifacts where
  sources := [
    ⟨.vulnerable, p.join "queue_vulnerabilities.cpp"⟩,
    ⟨.secure, p.join "secure_queue_alternatives.cpp"⟩,
    ⟨.exploit, p.join "queue_exploits.cpp"⟩]
  documentation := some (p.join "README.md")

theorem discover_of_resolve {t : FileTree} {p : Path} (ht : t.root = files.root)
    (h : t.resolve true p.text = .ok place) : Artifacts.discover t p = .ok (artifactsAt p) := by
  rw [Artifacts.discover, list_of_resolve ht h]
  rfl

theorem validate_isOk_of_dotted :
    (auditor.validate files brokenHost dotted ⟨.full, false⟩ (.initial ())).1.isOk = true := by
  have hd : Artifacts.discover files dotted = .ok (artifactsAt dotted) :=
    discover_of_resolve rfl (by decide +kernel)
  rw [Auditor.validate_of_discover hd rfl]
  decide +kernel

theorem checks_of_dotted_spelling :
    files.resolve true directory.text = .ok place ∧ files.resolve true dotted.text = .ok place ∧
    files.spelledOut directory = files.spelledOut dotted ∧
    Course.moduleName directory = Course.moduleName dotted ∧
    ∃ card card' : Scorecard,
      (auditor.validate files brokenHost directory ⟨.full, false⟩ (.initial ())).1 = .ok card ∧
      (auditor.validate files brokenHost dotted ⟨.full, false⟩ (.initial ())).1 = .ok card' ∧
      card.results.map (·.name) = card'.results.map (·.name) := by
  have hp : files.resolve true directory.text = .ok place := by decide +kernel
  have hq : files.resolve true dotted.text = .ok place := by decide +kernel
  have hs : files.spelledOut directory = files.spelledOut dotted := by decide +kernel
  have ⟨hm, _, _, hc⟩ := Auditor.validate_spelling (v := auditor) hp hq hs (by decide +kernel)
    (by decide +kernel)
  refine ⟨hp, hq, hs, hm, ?_⟩
  rcases hv : (auditor.validate files brokenHost directory ⟨.full, false⟩ (.initial ())).1
    with e | card
  case error => simpa [hv, Except.isOk, Except.toBool] using validate_isOk
  case ok =>
    rcases hv' : (auditor.validate files brokenHost dotted ⟨.full, false⟩ (.initial ())).1
      with e | card'
    case error => simpa [hv', Except.isOk, Except.toBool] using validate_isOk_of_dotted
    case ok => exact ⟨card, card', rfl, rfl, (hc _ _ _ _ _ card card' hv hv').2.2⟩

-- The names of the checks for data races that a validation makes, if it comes to its end.
def raceChecks (t : FileTree) (p : Path) : Option (List String) :=
  (auditor.validate t brokenHost p ⟨.full, false⟩ (.initial ())).1.toOption.map fun card =>
    (card.results.map (·.name)).filter ("tsan:".isPrefixOf ·)

theorem artifactsAt_alike (p q : Path) :
    List.Forall₂ Artifact.Alike (artifactsAt p).sources (artifactsAt q).sources := by
  have hn (role : Role) {name : String} (h : Path.IsName name) :
      Artifact.Alike ⟨role, p.join name⟩ ⟨role, q.join name⟩ :=
    ⟨rfl, (p.fileName_join h).trans (q.fileName_join h).symm⟩
  exact .cons (hn _ (by decide)) <| .cons (hn _ (by decide)) <| .cons (hn _ (by decide)) .nil

-- The names are known without a run, and from the names of the sources alone.
theorem raceChecks_eq {t : FileTree} {p : Path}
    (hd : Artifacts.discover t p = .ok (artifactsAt p))
    (ho : (auditor.validate t brokenHost p ⟨.full, false⟩ (.initial ())).1.isOk = true) :
    raceChecks t p = some ((["discover:vulnerable", "discover:secure"] ++
      (auditor.steps .full (Course.moduleName p) (artifactsAt ⟨""⟩).sources).flatMap Step.names ++
        ["documentation"]).filter ("tsan:".isPrefixOf ·)) := by
  rcases hv : (auditor.validate t brokenHost p ⟨.full, false⟩ (.initial ())).1 with e | card
  case error => rw [hv] at ho; cases ho
  case ok =>
    obtain ⟨artifacts, hd', hm, _, hr⟩ := Auditor.names_of_validate_ok hv
    cases hd.symm.trans hd'
    rw [raceChecks, hv, ← hm, ← auditor.names_steps_alike (artifactsAt_alike p ⟨""⟩)]
    exact congrArg (some <| List.filter _ ·) hr

-- A path that names the pattern only, as a user in the directory of the module writes it, hides the
-- module from the validation, which then does not look for data races.
theorem lone_spelling_hides_module :
    Course.resolvePattern inside ⟨"/"⟩ lone.text = .ok lone ∧
    Course.resolvePattern inside ⟨"/"⟩ directory.text = .ok directory ∧
    inside.resolve true lone.text = .ok place ∧ inside.resolve true directory.text = .ok place ∧
    inside.spelledOut lone = inside.spelledOut directory ∧
    Course.moduleName lone = "" ∧ Course.moduleName directory = "07-concurrency" ∧
    raceChecks inside lone = some [] ∧
    raceChecks inside directory =
      some ["tsan:queue_vulnerabilities.cpp", "tsan:secure_queue_alternatives.cpp"] := by
  have hl : inside.resolve true lone.text = .ok place := by decide +kernel
  have hd : inside.resolve true directory.text = .ok place := by decide +kernel
  have hla : Artifacts.discover inside lone = .ok (artifactsAt lone) := discover_of_resolve rfl hl
  have hda : Artifacts.discover inside directory = .ok (artifactsAt directory) :=
    discover_of_resolve rfl hd
  refine ⟨by decide +kernel, by decide +kernel, hl, hd, by decide +kernel,
    Course.moduleName_of_lone (by decide +kernel), by decide +kernel, ?_, ?_⟩
  case refine_1 =>
    refine (raceChecks_eq hla ?_).trans (by decide +kernel)
    rw [Auditor.validate_of_discover hla rfl]
    decide +kernel
  case refine_2 =>
    refine (raceChecks_eq hda ?_).trans (by decide +kernel)
    rw [Auditor.validate_of_discover hda rfl]
    decide +kernel

end Sample
end CourseAudit
