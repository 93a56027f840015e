import CourseAudit.Proofs.ByteOrder
import CourseAudit.Proofs.Listing
import CourseAudit.Proofs.Spelling

/-!
What is found of a pattern in its directory: every source, each once, by role and by name, and the
best documentation. Main statement: `Artifacts.discover_discovered`.
-/
namespace CourseAudit
namespace Artifacts

open FileTree (Entry Place)

/-! ### What there is to find -/

-- How good a file is as documentation.
inductive DocumentationRank : String → Nat → Prop
  | analysis : DocumentationRank "SECURITY_ANALYSIS.md" 0
  | poster {name : String} :
    "SECURITY_POSTER.md".toList <:+ name.toList → DocumentationRank name 1
  | readme : DocumentationRank "README.md" 2

-- What an entry of the directory of a pattern has to do with a source.
inductive IsFrom (t : FileTree) (directory : Path) (place : Place) : Entry → Artifact → Prop
  | topLevel {name : String} {role : Role} :
    Role.ofFileName? name = some role →
    IsFrom t directory place ⟨name, .file⟩ ⟨role, directory.join name⟩
  -- Whatever role the name would have in the directory of the pattern.
  | exploit {name : String} :
    t.Holds (place ++ ["exploits"]) name .file → ".cpp".toList <:+ name.toList →
    IsFrom t directory place ⟨"exploits", .directory⟩
      ⟨.exploit, (directory.join "exploits").join name⟩

-- A source of the pattern whose directory is at a place.
def IsSource (t : FileTree) (directory : Path) (place : Place) (a : Artifact) : Prop :=
  ∃ e : Entry, t.Holds place e.name e.kind ∧ IsFrom t directory place e a

-- A file of the best rank, and of those the first one by the bytes of its name.
structure IsBest (t : FileTree) (place : Place) (name : String) (rank : Nat) : Prop where
  holds  : t.Holds place name .file
  ranked : DocumentationRank name rank
  least  : ∀ other rank', t.Holds place other .file → DocumentationRank other rank' →
    rank < rank' ∨ rank = rank' ∧
      (name = other ∨ Text.Utf8.encodeString name < Text.Utf8.encodeString other)

-- What is found in a directory at a place.
structure Discovered (t : FileTree) (directory : Path) (place : Place) (artifacts : Artifacts) :
    Prop where
  nodup         : artifacts.sources.Nodup
  mem_sources   : ∀ a, a ∈ artifacts.sources ↔ IsSource t directory place a
  byRole        : artifacts.sources =
    artifacts.ofRole .vulnerable ++ artifacts.ofRole .secure ++ artifacts.ofRole .exploit
  -- Exploits come from two directories.
  ordered       : ∀ role, role ≠ .exploit → (artifacts.ofRole role).Pairwise fun a b =>
    Text.Utf8.encodeString a.fileName < Text.Utf8.encodeString b.fileName
  documentation : ∀ path, artifacts.documentation = some path ↔
    ∃ name rank, path = directory.join name ∧ IsBest t place name rank
  undocumented  : artifacts.documentation = none ↔
    ∀ name rank, t.Holds place name .file → ¬DocumentationRank name rank

/-! ### The sources -/

variable {t : SoundTree} {directory : Path} {place : Place} {entries : List Entry} {e : Entry}
variable {here sources : List Artifact} {a b : Artifact}

-- The names that lead to a source from the directory of its pattern.
def way (directory : Path) (a : Artifact) : List String :=
  (a.path.components.drop directory.components.length).filterMap fun
    | .name n => some n
    | _ => none

theorem way_eq {names : List String}
    (h : a.path.components = directory.components ++ names.map .name) :
    way directory a = names := by
  rw [way, h, List.drop_left, List.filterMap_map]
  exact List.filterMap_some

-- How two sources stand to each other, the first of them being found first.
def Precedes (directory : Path) (a b : Artifact) : Prop :=
  way directory a < way directory b

theorem Precedes.ne (h : Precedes directory a b) : a ≠ b := by
  rintro rfl
  exact List.lt_irrefl _ h

-- In one directory the names decide.
theorem Precedes.fileName_lt {above : List String} (h : Precedes directory a b)
    (ha : way directory a = above ++ [a.fileName]) (hb : way directory b = above ++ [b.fileName]) :
    a.fileName < b.fileName := by
  rw [Precedes, ha, hb] at h
  clear ha hb
  induction above
  case nil => exact (List.cons_lt_cons_iff.mp h).resolve_right fun h => List.lt_irrefl _ h.2
  case cons name above hi =>
    exact hi ((List.cons_lt_cons_iff.mp h).resolve_left (List.lt_irrefl _)).2

theorem way_topLevel {name : String} (hn : Path.IsName name) (role : Role) :
    way directory ⟨role, directory.join name⟩ = [name] :=
  way_eq (directory.components_join hn)

theorem way_below {above name : String} (ha : Path.IsName above) (hn : Path.IsName name)
    (role : Role) : way directory ⟨role, (directory.join above).join name⟩ = [above, name] := by
  refine way_eq ?_
  rw [Path.components_join _ hn, directory.components_join ha, List.append_assoc]
  rfl

namespace IsFrom

-- The entry can be told from the path.
theorem exists_way_eq (h : IsFrom t directory place e a) (hn : Path.IsName e.name) :
    ∃ more, way directory a = e.name :: more := by
  cases h
  case topLevel => exact ⟨[], way_topLevel hn _⟩
  case exploit name hh _ => exact ⟨[name], way_below hn hh.isName _⟩

-- Only exploits can lie deeper than in the directory itself.
theorem way_eq (h : IsFrom t directory place e a) (hn : Path.IsName e.name)
    (ha : a.role ≠ .exploit) : way directory a = [a.fileName] := by
  cases h
  case topLevel name _ _ => rw [way_topLevel hn, Artifact.fileName, directory.fileName_join hn]
  case exploit => exact (ha rfl).elim

theorem precedes {e' : Entry} (h : IsFrom t directory place e a)
    (h' : IsFrom t directory place e' b) (hn : Path.IsName e.name) (hn' : Path.IsName e'.name)
    (hlt : e.name < e'.name) : Precedes directory a b := by
  have ⟨_, hw⟩ := h.exists_way_eq hn
  have ⟨_, hw'⟩ := h'.exists_way_eq hn'
  rw [Precedes, hw, hw']
  exact List.cons_lt_cons_iff.mpr (.inl hlt)

end IsFrom

theorem IsSource.way_eq (h : IsSource t directory place a) (ha : a.role ≠ .exploit) :
    way directory a = [a.fileName] :=
  have ⟨_, he, hf⟩ := h
  hf.way_eq he.isName ha

theorem exploit?_eq_some_iff {name : String} :
    exploit? directory name = some a ↔
      ".cpp".toList <:+ name.toList ∧ a = ⟨.exploit, directory.join name⟩ := by
  rw [exploit?, ← List.isSuffixOf_iff_suffix, Option.ite_none_right_eq_some, Option.some.injEq,
    eq_comm (a := a)]

theorem mem_filesOf {name : String} : name ∈ filesOf entries ↔ ⟨name, .file⟩ ∈ entries :=
  FileTree.mem_names_of_kind

theorem filesOf_pairwise (h : entries.Pairwise (·.name < ·.name)) :
    (filesOf entries).Pairwise (· < ·) :=
  List.pairwise_map.mpr (h.filter _)

theorem isName_exploitsName : Path.IsName exploitsName := by decide

-- Exploits that lie in a directory for them.
theorem exploits_pairwise (h : t.Listed place entries) :
    ((filesOf entries).filterMap (exploit? (directory.join exploitsName))).Pairwise
      (Precedes directory) := by
  rw [List.pairwise_filterMap]
  have hf := filesOf_pairwise h.increasing
  refine hf.imp_of_mem fun {name name'} hm hm' hlt a ha b hb => ?_
  obtain ⟨-, rfl⟩ := exploit?_eq_some_iff.mp ha
  obtain ⟨-, rfl⟩ := exploit?_eq_some_iff.mp hb
  have hn := ((h.mem_iff ..).mp (mem_filesOf.mp hm)).isName
  have hn' := ((h.mem_iff ..).mp (mem_filesOf.mp hm')).isName
  rw [Precedes, way_below isName_exploitsName hn, way_below isName_exploitsName hn']
  exact List.cons_lt_cons_iff.mpr (.inr ⟨rfl, List.cons_lt_cons_iff.mpr (.inl hlt)⟩)

theorem isFrom_file_iff {name : String} :
    IsFrom t directory place ⟨name, .file⟩ a ↔ topLevel? directory name = some a := by
  rw [topLevel?, Option.map_eq_some_iff]
  constructor
  case mp =>
    rintro ⟨hr⟩
    exact ⟨_, hr, rfl⟩
  case mpr =>
    rintro ⟨role, hr, rfl⟩
    exact .topLevel hr

theorem isFrom_exploits_iff (h : t.Listed (place ++ [exploitsName]) entries) :
    IsFrom t directory place ⟨exploitsName, .directory⟩ a ↔
      a ∈ (filesOf entries).filterMap (exploit? (directory.join exploitsName)) := by
  simp only [List.mem_filterMap, mem_filesOf, h.mem_iff, exploit?_eq_some_iff]
  constructor
  case mp =>
    rintro ⟨⟩
    exact ⟨_, ‹_›, ‹_›, rfl⟩
  case mpr =>
    rintro ⟨name, hh, hs, rfl⟩
    exact .exploit hh hs

-- What one entry leads to.
theorem sourcesOf_eq_ok (hp : t.resolve true directory.text = .ok place)
    (he : t.Holds place e.name e.kind) (h : sourcesOf t directory e = .ok here) :
    (∀ a, a ∈ here ↔ IsFrom t directory place e a) ∧ here.Pairwise (Precedes directory) := by
  obtain ⟨name, kind⟩ := e
  cases kind
  case file =>
    cases h
    refine ⟨fun a => Option.mem_toList.trans isFrom_file_iff.symm, ?_⟩
    cases topLevel? directory name <;> simp
  case link =>
    cases h
    refine ⟨fun a => iff_of_false List.not_mem_nil ?_, .nil⟩
    rintro ⟨⟩
  case directory =>
    by_cases hn : name = exploitsName
    case neg =>
      simp only [sourcesOf, if_neg hn] at h
      cases h
      refine ⟨fun a => iff_of_false List.not_mem_nil ?_, .nil⟩
      rintro ⟨⟩
      exact hn rfl
    case pos =>
      subst hn
      simp only [sourcesOf, if_true] at h
      cases hl : t.list (directory.join exploitsName) <;> simp only [hl] at h
      case error => cases h
      case ok below =>
        cases h
        have hb := SoundTree.listed_join hp he hl
        exact ⟨fun a => (isFrom_exploits_iff hb).symm, exploits_pairwise hb⟩

-- By induction on the entries. Sources of different entries differ, since the entry is part of the
-- path.
theorem collect_eq_ok (hp : t.resolve true directory.text = .ok place)
    (he : ∀ e ∈ entries, t.Holds place e.name e.kind) (hw : entries.Pairwise (·.name < ·.name))
    (h : collect t directory entries = .ok sources) :
    (∀ a, a ∈ sources ↔ ∃ e ∈ entries, IsFrom t directory place e a) ∧
      sources.Pairwise (Precedes directory) := by
  induction entries generalizing sources
  case nil =>
    cases h
    simp
  case cons e rest hi =>
    obtain ⟨here, behind, hs, hc, rfl⟩ := collect_cons_eq_ok h
    have ⟨hlt, hw⟩ := List.pairwise_cons.mp hw
    have ⟨he, her⟩ := List.forall_mem_cons.mp he
    have ⟨hm, hh⟩ := sourcesOf_eq_ok hp he hs
    have ⟨hmr, hb⟩ := hi her hw hc
    constructor
    case left => simp [hm, hmr]
    case right =>
      refine List.pairwise_append.mpr ⟨hh, hb, fun a ha b hb => ?_⟩
      have ⟨e', he', hb⟩ := (hmr b).mp hb
      exact ((hm a).mp ha).precedes hb he.isName (her e' he').isName (hlt e' he')

/-! ### Their order -/

theorem role_of_mem_filter {role : Role} (h : a ∈ sources.filter (·.role = role)) :
    a.role = role :=
  of_decide_eq_true (List.mem_filter.mp h).2

theorem ofRole_byRole (sources : List Artifact) (documentation : Option Path) (role : Role) :
    (Artifacts.mk (byRole sources) documentation).ofRole role =
      sources.filter (·.role = role) := by
  have hr (role' : Role) : (sources.filter (·.role = role')).filter (·.role = role) =
      if role' = role then sources.filter (·.role = role) else [] := by
    split
    case isTrue he => simp [he]
    case isFalse he => simp +contextual [List.filter_filter, Ne.symm he]
  simp only [ofRole, byRole, Role.all, List.flatMap_cons, List.flatMap_nil, List.filter_append, hr]
  cases role <;> simp

theorem nodup_byRole (h : sources.Nodup) : (byRole sources).Nodup := by
  refine List.pairwise_flatMap.mpr ⟨fun role _ => h.filter _, ?_⟩
  have hn : Role.all.Nodup := by decide
  refine hn.imp fun {role role'} hne a ha b hb he => hne ?_
  rw [← role_of_mem_filter ha, ← role_of_mem_filter hb, he]

/-! ### The documentation -/

theorem documentationRank?_eq_some_iff {name : String} {rank : Nat} :
    documentationRank? name = some rank ↔ DocumentationRank name rank := by
  constructor
  case mp =>
    rw [documentationRank?]
    split
    case isTrue hn => rintro ⟨⟩; exact hn ▸ .analysis
    case isFalse =>
      split
      case isTrue hn => rintro ⟨⟩; exact .poster (List.isSuffixOf_iff_suffix.mp hn)
      case isFalse =>
        split
        case isTrue hn => rintro ⟨⟩; exact hn ▸ .readme
        case isFalse => nofun
  case mpr =>
    rintro (_ | hn | _)
    case analysis => rfl
    case poster =>
      have hne : name ≠ "SECURITY_ANALYSIS.md" := by
        rintro rfl
        exact absurd hn (by decide)
      rw [documentationRank?, if_neg hne, if_pos (List.isSuffixOf_iff_suffix.mpr hn)]
    case readme => rfl

-- In a list in order, the first name of a kind is the least one.
theorem find?_least {names : List String} {p : String → Bool} {name : String}
    (hw : names.Pairwise (· < ·)) (h : names.find? p = some name) :
    name ∈ names ∧ p name = true ∧
      ∀ other ∈ names, p other = true → name = other ∨ name < other := by
  obtain ⟨hp, before, behind, rfl, hb⟩ := List.find?_eq_some_iff_append.mp h
  refine ⟨by simp, hp, fun other ho hpo => ?_⟩
  rcases List.mem_append.mp ho with ho | ho
  case inl => exact absurd hpo (by simpa using hb other ho)
  case inr =>
    rcases List.mem_cons.mp ho with rfl | ho
    case inl => exact .inl rfl
    case inr => exact .inr ((List.pairwise_cons.mp (List.pairwise_append.mp hw).2.1).1 other ho)

theorem DocumentationRank.mem {name : String} {rank : Nat} (h : DocumentationRank name rank) :
    rank ∈ [0, 1, 2] := by
  cases h <;> decide

theorem IsBest.unique {name name' : String} {rank rank' : Nat} (h : IsBest t place name rank)
    (h' : IsBest t place name' rank') : name = name' := by
  rcases h.least _ _ h'.holds h'.ranked with hr | ⟨hr, hn⟩
  case inl =>
    rcases h'.least _ _ h.holds h.ranked with hr' | ⟨hr', -⟩ <;> omega
  case inr =>
    rcases h'.least _ _ h.holds h.ranked with hr' | ⟨-, hn'⟩
    case inl => omega
    case inr =>
      rcases hn with hn | hn
      case inl => exact hn
      case inr =>
        rcases hn' with hn' | hn'
        case inl => exact hn'.symm
        case inr => exact (List.lt_asymm hn hn').elim

section

variable (h : t.Listed place entries)
include h

theorem mem_filesOf_iff {name : String} : name ∈ filesOf entries ↔ t.Holds place name .file :=
  mem_filesOf.trans (h.mem_iff ..)

-- Ranks are tried from the best one on.
theorem isBest_of_documentationOf {name : String}
    (hd : documentationOf (filesOf entries) = some name) : ∃ rank, IsBest t place name rank := by
  have ⟨before, rank, behind, hr, hf, hb⟩ := List.findSome?_eq_some_iff.mp hd
  have hw : (before ++ rank :: behind).Pairwise (· < ·) := hr ▸ (by decide)
  have ⟨hm, hn, hl⟩ := find?_least (filesOf_pairwise h.increasing) hf
  refine ⟨rank, (mem_filesOf_iff h).mp hm,
    documentationRank?_eq_some_iff.mp (of_decide_eq_true hn), fun other rank' ho hr' => ?_⟩
  have ho := (mem_filesOf_iff h).mpr ho
  have hm' := hr'.mem
  have hr' := documentationRank?_eq_some_iff.mpr hr'
  rw [hr] at hm'
  rcases List.mem_append.mp hm' with hm' | hm'
  case inl => simpa [hr'] using List.find?_eq_none.mp (hb rank' hm') other ho
  case inr =>
    rcases List.mem_cons.mp hm' with rfl | hm'
    case inl =>
      have hl := hl other ho (decide_eq_true hr')
      exact .inr ⟨rfl, hl.imp_right Text.Utf8.encodeString_lt_iff.mpr⟩
    case inr => exact .inl ((List.pairwise_cons.mp (List.pairwise_append.mp hw).2.1).1 rank' hm')

theorem documentationOf_eq_none_iff :
    documentationOf (filesOf entries) = none ↔
      ∀ name rank, t.Holds place name .file → ¬DocumentationRank name rank := by
  simp only [documentationOf, List.findSome?_eq_none_iff, List.find?_eq_none, decide_eq_true_eq,
    mem_filesOf_iff h, documentationRank?_eq_some_iff]
  constructor
  case mp => exact fun hn name rank hh hr => hn rank hr.mem name hh hr
  case mpr => exact fun hn rank _ name hh => hn name rank hh

theorem documentationOf_eq_some_iff {name : String} :
    documentationOf (filesOf entries) = some name ↔ ∃ rank, IsBest t place name rank := by
  refine ⟨isBest_of_documentationOf h, fun ⟨rank, hb⟩ => ?_⟩
  cases hd : documentationOf (filesOf entries)
  case none => exact ((documentationOf_eq_none_iff h).mp hd name rank hb.holds hb.ranked).elim
  case some name' =>
    obtain ⟨rank', hb'⟩ := isBest_of_documentationOf h hd
    rw [hb.unique hb']

end

-- The sources in the order in which they are found, and what the answer makes of them.
theorem exists_sources {artifacts : Artifacts} (h : discover t directory = .ok artifacts) :
    ∃ place entries sources, t.resolve true directory.text = .ok place ∧
      t.Listed place entries ∧ (∀ a, a ∈ sources ↔ IsSource t directory place a) ∧
      sources.Pairwise (Precedes directory) ∧
      artifacts = ⟨byRole sources, (documentationOf (filesOf entries)).map directory.join⟩ := by
  obtain ⟨entries, sources, hl, hc, ha⟩ := discover_eq_ok h
  have ⟨place, hp, hl⟩ := SoundTree.exists_listed hl
  have ⟨hm, hw⟩ := collect_eq_ok hp (fun e he => (hl.mem_iff ..).mp he) hl.increasing hc
  refine ⟨place, entries, sources, hp, hl, fun a => ?_, hw, ha⟩
  rw [hm]
  exact exists_congr fun e => and_congr_left' (hl.mem_iff ..)

-- Whatever the tree holds, this is what is found.
theorem discover_discovered {artifacts : Artifacts} (h : discover t directory = .ok artifacts) :
    ∃ place, t.resolve true directory.text = .ok place ∧
      Discovered t directory place artifacts := by
  obtain ⟨place, entries, sources, hp, hl, hm, hw, rfl⟩ := exists_sources h
  refine ⟨place, hp, ?_⟩
  constructor
  case nodup => exact nodup_byRole (hw.imp Precedes.ne)
  case mem_sources => exact fun a => mem_byRole.trans (hm a)
  case byRole =>
    rw [ofRole_byRole, ofRole_byRole, ofRole_byRole]
    simp [byRole, Role.all]
  case ordered =>
    intro role hr
    have hway {a : Artifact} (ha : a ∈ sources.filter (·.role = role)) :
        way directory a = [] ++ [a.fileName] :=
      ((hm a).mp (List.mem_filter.mp ha).1).way_eq (role_of_mem_filter ha ▸ hr)
    rw [ofRole_byRole]
    refine (hw.filter _).imp_of_mem fun {a b} ha hb hab => ?_
    exact Text.Utf8.encodeString_lt_iff.mpr (hab.fileName_lt (hway ha) (hway hb))
  case documentation =>
    intro path
    simp only [Option.map_eq_some_iff, documentationOf_eq_some_iff hl]
    constructor
    case mp =>
      rintro ⟨name, ⟨rank, hb⟩, rfl⟩
      exact ⟨name, rank, rfl, hb⟩
    case mpr =>
      rintro ⟨name, rank, rfl, hb⟩
      exact ⟨name, ⟨rank, hb⟩, rfl⟩
  case undocumented => rw [Option.map_eq_none_iff, documentationOf_eq_none_iff hl]

end Artifacts

namespace Sample

def soundFiles : SoundTree where
  toFileTree := files
  sound      := by decide +kernel

-- Every source of the pattern is found, and its only documentation.
theorem discovered_queue :
    ∃ place, soundFiles.resolve true directory.text = .ok place ∧
      Artifacts.Discovered soundFiles directory place artifacts :=
  Artifacts.discover_discovered discover_eq

end Sample
end CourseAudit
