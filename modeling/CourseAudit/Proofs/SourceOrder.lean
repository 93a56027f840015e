import CourseAudit.Proofs.Discovery

/-!
The order of the sources of a pattern. Within a role it is the order of the ways to them, and this
is not the order of their names when exploits lie in two directories. Main statement:
`Artifacts.discover_ordered`.
-/
namespace CourseAudit
namespace Artifacts

open Text.Utf8 (encodeString encodeString_le_iff encodeString_lt_iff)

/-! ### Orders -/

-- The sources of each role are in the order of their names.
def InNameOrder (artifacts : Artifacts) : Prop :=
  ∀ role, (artifacts.ofRole role).Pairwise fun a b =>
    encodeString a.fileName ≤ encodeString b.fileName

-- An exploit in the directory of the pattern.
structure IsAbove (t : FileTree) (place : FileTree.Place) (name : String) : Prop where
  holds : t.Holds place name .file
  role  : Role.ofFileName? name = some .exploit

-- An exploit in the directory for exploits.
structure IsBelow (t : FileTree) (place : FileTree.Place) (name : String) : Prop where
  around : t.Holds place exploitsName .directory
  holds  : t.Holds (place ++ [exploitsName]) name .file
  ending : ".cpp".toList <:+ name.toList

-- Every exploit in the directory of the pattern is on the same side of the exploits below as of the
-- name of the directory that these lie in.
structure Sided (t : FileTree) (place : FileTree.Place) : Prop where
  before : ∀ above below, IsAbove t place above → IsBelow t place below →
    encodeString above < encodeString exploitsName → encodeString above ≤ encodeString below
  behind : ∀ above below, IsAbove t place above → IsBelow t place below →
    encodeString exploitsName < encodeString above → encodeString below ≤ encodeString above

-- How the sources of a pattern are ordered.
structure Ordered (t : FileTree) (directory : Path) (place : FileTree.Place)
    (artifacts : Artifacts) : Prop where
  byRole : artifacts.sources = Role.all.flatMap artifacts.ofRole
  byWay  : ∀ role, (artifacts.ofRole role).Pairwise fun a b =>
    (way directory a).map encodeString < (way directory b).map encodeString
  byName : artifacts.InNameOrder ↔ Sided t place

variable {t : SoundTree} {directory : Path} {place : FileTree.Place} {sources : List Artifact}
variable {a b : Artifact} {above below : String}

/-! ### Exploits of two directories -/

-- What is so whenever one source is found before another.
theorem forall_of_precedes {q : Artifact → Artifact → Prop}
    (hw : sources.Pairwise (Precedes directory)) (hq : sources.Pairwise q) :
    ∀ a ∈ sources, ∀ b ∈ sources, Precedes directory a b → q a b := by
  refine List.Pairwise.forall_of_forall_of_flip (fun a _ h => (h.ne rfl).elim) ?_ ?_
  case refine_1 =>
    refine hq.imp ?_
    exact fun hq _ => hq
  case refine_2 =>
    refine hw.imp ?_
    exact fun h h' => (List.lt_asymm h h').elim

namespace IsAbove

variable (h : IsAbove t place above)
include h

theorem isSource : IsSource t directory place ⟨.exploit, directory.join above⟩ :=
  ⟨_, h.holds, .topLevel h.role⟩

theorem ne_exploitsName : above ≠ exploitsName := by
  rintro rfl
  exact absurd h.role (by decide +kernel)

theorem way_eq : way directory ⟨.exploit, directory.join above⟩ = [above] :=
  way_topLevel h.holds.isName _

theorem fileName : Artifact.fileName ⟨.exploit, directory.join above⟩ = above :=
  directory.fileName_join h.holds.isName

end IsAbove

namespace IsBelow

variable (h : IsBelow t place below)
include h

theorem isSource :
    IsSource t directory place ⟨.exploit, (directory.join exploitsName).join below⟩ :=
  ⟨_, h.around, .exploit h.holds h.ending⟩

theorem way_eq :
    way directory ⟨.exploit, (directory.join exploitsName).join below⟩ = [exploitsName, below] :=
  way_below isName_exploitsName h.holds.isName _

theorem fileName :
    Artifact.fileName ⟨.exploit, (directory.join exploitsName).join below⟩ = below :=
  Path.fileName_join _ h.holds.isName

end IsBelow

-- The names that lead to where an exploit lies.
inductive Lies (t : FileTree) (directory : Path) (place : FileTree.Place) :
    List String → Artifact → Prop
  | above {name : String} :
    IsAbove t place name → Lies t directory place [] ⟨.exploit, directory.join name⟩
  | below {name : String} :
    IsBelow t place name →
    Lies t directory place [exploitsName] ⟨.exploit, (directory.join exploitsName).join name⟩

theorem Lies.way_eq {names : List String} (h : Lies t directory place names a) :
    way directory a = names ++ [a.fileName] := by
  cases h
  case above h => rw [h.way_eq, h.fileName, List.nil_append]
  case below h => rw [h.way_eq, h.fileName, List.singleton_append]

theorem IsSource.exists_lies (h : IsSource t directory place a) (hr : a.role = .exploit) :
    ∃ names, Lies t directory place names a := by
  obtain ⟨e, hh, hf⟩ := h
  cases hf
  case topLevel role hn =>
    obtain rfl : role = .exploit := hr
    exact ⟨_, .above ⟨hh, hn⟩⟩
  case exploit hb he => exact ⟨_, .below ⟨hh, hb, he⟩⟩

section

variable (directory) (ha : IsAbove t place above) (hb : IsBelow t place below)
include ha hb

-- Which of two exploits is found first, the name of the directory for exploits decides.
theorem precedes_below_iff :
    Precedes directory ⟨.exploit, directory.join above⟩
        ⟨.exploit, (directory.join exploitsName).join below⟩ ↔ above < exploitsName := by
  rw [Precedes, ha.way_eq, hb.way_eq, List.cons_lt_cons_iff]
  simp [ha.ne_exploitsName]

theorem below_precedes_iff :
    Precedes directory ⟨.exploit, (directory.join exploitsName).join below⟩
        ⟨.exploit, directory.join above⟩ ↔ exploitsName < above := by
  rw [Precedes, ha.way_eq, hb.way_eq, List.cons_lt_cons_iff]
  simp [ha.ne_exploitsName.symm]

end

/-! ### The sources of a pattern -/

-- Sources of one directory are always found in the order of their names.
theorem Precedes.fileName_le {names : List String} (h : Precedes directory a b)
    (ha : way directory a = names ++ [a.fileName]) (hb : way directory b = names ++ [b.fileName]) :
    encodeString a.fileName ≤ encodeString b.fileName :=
  encodeString_le_iff.mpr (Std.le_of_lt (h.fileName_lt ha hb))

theorem Sided.fileName_le (hs : Sided t place) (ha : IsSource t directory place a)
    (hb : IsSource t directory place b) (hr : a.role = b.role) (h : Precedes directory a b) :
    encodeString a.fileName ≤ encodeString b.fileName := by
  by_cases he : a.role = .exploit
  case neg =>
    have hw : way directory a = [] ++ [a.fileName] := ha.way_eq he
    have hw' : way directory b = [] ++ [b.fileName] := hb.way_eq (hr ▸ he)
    exact h.fileName_le hw hw'
  case pos =>
    have ⟨_, hl⟩ := ha.exists_lies he
    have ⟨_, hl'⟩ := hb.exists_lies (hr ▸ he)
    have hw := hl.way_eq
    have hw' := hl'.way_eq
    cases hl <;> cases hl'
    case above.above => exact h.fileName_le hw hw'
    case below.below => exact h.fileName_le hw hw'
    case above.below hi _ ho =>
      have hlt := (precedes_below_iff directory hi ho).mp h
      rw [hi.fileName, ho.fileName]
      exact hs.before _ _ hi ho (encodeString_lt_iff.mpr hlt)
    case below.above ho _ hi =>
      have hlt := (below_precedes_iff directory hi ho).mp h
      rw [hi.fileName, ho.fileName]
      exact hs.behind _ _ hi ho (encodeString_lt_iff.mpr hlt)

theorem ofRole_pairwise {documentation : Option Path} {q : Artifact → Artifact → Prop}
    (h : sources.Pairwise fun a b => a.role = b.role → q a b) (role : Role) :
    ((Artifacts.mk (byRole sources) documentation).ofRole role).Pairwise q := by
  rw [ofRole_byRole]
  refine (h.filter _).imp_of_mem fun {a b} ha hb hq => ?_
  exact hq ((role_of_mem_filter ha).trans (role_of_mem_filter hb).symm)

theorem inNameOrder_iff {documentation : Option Path}
    (hm : ∀ a, a ∈ sources ↔ IsSource t directory place a)
    (hw : sources.Pairwise (Precedes directory)) :
    (Artifacts.mk (byRole sources) documentation).InNameOrder ↔ Sided t place := by
  constructor
  case mp =>
    intro h
    have hq := h .exploit
    rw [ofRole_byRole] at hq
    have hf := forall_of_precedes (hw.filter _) hq
    simp only [List.mem_filter, hm, decide_eq_true_eq] at hf
    constructor
    case before =>
      intro above below ha hb hlt
      have hp := (precedes_below_iff directory ha hb).mpr (encodeString_lt_iff.mp hlt)
      have hle := hf _ ⟨ha.isSource, rfl⟩ _ ⟨hb.isSource, rfl⟩ hp
      rwa [ha.fileName, hb.fileName] at hle
    case behind =>
      intro above below ha hb hlt
      have hp := (below_precedes_iff directory ha hb).mpr (encodeString_lt_iff.mp hlt)
      have hle := hf _ ⟨hb.isSource, rfl⟩ _ ⟨ha.isSource, rfl⟩ hp
      rwa [ha.fileName, hb.fileName] at hle
  case mpr =>
    refine fun hs => ofRole_pairwise (hw.imp_of_mem fun {a b} ha hb hp hr => ?_)
    exact hs.fileName_le ((hm a).mp ha) ((hm b).mp hb) hr hp

-- Sources are ordered by role and then by the ways to them. This is the order of their names if and
-- only if the exploits in the directory for them come by name where that directory does.
theorem discover_ordered {artifacts : Artifacts} (h : discover t directory = .ok artifacts) :
    ∃ place, t.resolve true directory.text = .ok place ∧
      Ordered t directory place artifacts := by
  obtain ⟨place, entries, sources, hp, -, hm, hw, rfl⟩ := exists_sources h
  refine ⟨place, hp, ?_⟩
  constructor
  case byRole =>
    exact List.flatMap_congr fun role _ => (ofRole_byRole sources _ role).symm
  case byWay =>
    refine ofRole_pairwise (hw.imp fun {a b} hp _ => ?_)
    exact List.map_lt (fun _ _ => encodeString_lt_iff.mpr) hp
  case byName => exact inNameOrder_iff hm hw

end Artifacts

namespace Sample

-- A pattern with an exploit in its own directory, and with one in the directory for exploits.
def divided : SoundTree where
  root := .directory [("p", .directory [
    ("exploits", .directory [("z.cpp", .file [] false)]),
    ("f_exploits.cpp", .file [] false)])]
  cwd := []
  sound := by decide +kernel

def dividedArtifacts : Artifacts where
  sources := [
    ⟨.exploit, (Path.join ⟨"p"⟩ "exploits").join "z.cpp"⟩,
    ⟨.exploit, Path.join ⟨"p"⟩ "f_exploits.cpp"⟩]
  documentation := none

theorem discover_divided : Artifacts.discover divided ⟨"p"⟩ = .ok dividedArtifacts := by
  have hl : divided.list ⟨"p"⟩ = .ok [⟨"exploits", .directory⟩, ⟨"f_exploits.cpp", .file⟩] :=
    congrArg Except.ok (List.mergeSort_of_pairwise (by decide +kernel))
  have hb : divided.list (Path.join ⟨"p"⟩ Artifacts.exploitsName) = .ok [⟨"z.cpp", .file⟩] :=
    congrArg Except.ok (List.mergeSort_of_pairwise (by decide +kernel))
  simp only [Artifacts.discover, Artifacts.collect, Artifacts.sourcesOf, hl, hb]
  rfl

-- Of these two exploits the one that is deeper is found first.
theorem ordered_by_way :
    ∃ place, divided.resolve true "p" = .ok place ∧
      Artifacts.Ordered divided ⟨"p"⟩ place dividedArtifacts :=
  Artifacts.discover_ordered discover_divided

theorem not_ordered_by_name :
    Artifacts.discover divided ⟨"p"⟩ = .ok dividedArtifacts ∧ ¬dividedArtifacts.InNameOrder := by
  refine ⟨discover_divided, fun h => ?_⟩
  have hp := h .exploit
  revert hp
  decide +kernel

end Sample
end CourseAudit
