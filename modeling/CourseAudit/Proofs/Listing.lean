import CourseAudit.Proofs.Places

/-!
What the listing of a directory tells about a tree whose directories hold every name once. Main
statements: `SoundTree.exists_listed` (a listing shows exactly what lies in a directory, by
increasing names) and `SoundTree.listed_join` (a name below a path is listed where the directory of
that name lies).
-/
namespace CourseAudit

instance (name : String) : Decidable (Path.IsName name) :=
  decidable_of_iff ('/' ∉ name.toList ∧ name ≠ "" ∧ name ≠ "." ∧ name ≠ "..")
    ⟨fun ⟨hf, hn, hh, hu⟩ => ⟨hf, hn, hh, hu⟩, fun ⟨hf, hn, hh, hu⟩ => ⟨hf, hn, hh, hu⟩⟩

namespace Node

-- A tree as it can lie on a disk: no directory holds two entries of one name, and every name can
-- stand between two slashes.
inductive Sound : Node → Prop
  | file (content : Text.Utf8.Bytes) (executable : Bool) : Sound (.file content executable)
  | link (target : String) : Sound (.link target)
  | directory {entries : List (String × Node)} :
    (entries.map (·.1)).Nodup → (∀ e ∈ entries, Path.IsName e.1) → (∀ e ∈ entries, Sound e.2) →
    Sound (.directory entries)

mutual

def isSound : Node → Bool
  | .directory entries => (entries.map (·.1)).Nodup && areSound entries
  | .file .. | .link _ => true
termination_by structural node => node

def areSound : List (String × Node) → Bool
  | [] => true
  | entry :: rest => Path.IsName entry.1 && entry.2.isSound && areSound rest
termination_by structural entries => entries

end

mutual

theorem sound_of_isSound (node : Node) (h : node.isSound) : node.Sound := by
  cases node
  case file => exact .file ..
  case link => exact .link ..
  case directory entries =>
    rw [isSound, Bool.and_eq_true, decide_eq_true_eq] at h
    have hs := sound_of_areSound entries h.2
    exact .directory h.1 (fun e he => (hs e he).1) fun e he => (hs e he).2

theorem sound_of_areSound (entries : List (String × Node)) (h : areSound entries) :
    ∀ e ∈ entries, Path.IsName e.1 ∧ e.2.Sound := by
  cases entries
  case nil => exact List.forall_mem_nil _
  case cons entry rest =>
    simp only [areSound, Bool.and_eq_true, decide_eq_true_eq] at h
    exact List.forall_mem_cons.mpr
      ⟨⟨h.1.1, sound_of_isSound entry.2 h.1.2⟩, sound_of_areSound rest h.2⟩

end

theorem Sound.isSound {node : Node} (h : node.Sound) : node.isSound := by
  induction h
  case file => rfl
  case link => rfl
  case directory entries hn hi hd hs =>
    have ha : areSound entries := by
      clear hn hd
      induction entries
      case nil => rfl
      case cons entry rest hr =>
        have ⟨hi, hir⟩ := List.forall_mem_cons.mp hi
        have ⟨hs, hsr⟩ := List.forall_mem_cons.mp hs
        rw [areSound, decide_eq_true hi, hs, hr hir hsr]
        rfl
    rw [Node.isSound, decide_eq_true hn, ha]
    rfl

instance (node : Node) : Decidable node.Sound :=
  decidable_of_iff _ ⟨sound_of_isSound node, Sound.isSound⟩

section

variable {name : String} {node : Node} {entries : List (String × Node)}

theorem mem_of_find? (h : find? name entries = some node) : (name, node) ∈ entries := by
  induction entries
  case nil => cases h
  case cons e rest hi =>
    rw [find?] at h
    split at h
    case isTrue hn =>
      cases h
      exact hn ▸ List.mem_cons_self
    case isFalse => exact List.mem_cons_of_mem _ (hi h)

-- Where no name is used twice, an entry is found under its name.
theorem find?_eq_some_iff (h : (entries.map (·.1)).Nodup) :
    find? name entries = some node ↔ (name, node) ∈ entries := by
  refine ⟨mem_of_find?, fun hm => ?_⟩
  induction entries
  case nil => cases hm
  case cons e rest hi =>
    have ⟨hne, hr⟩ := List.nodup_cons.mp h
    rw [find?]
    rcases List.mem_cons.mp hm with rfl | hm
    case inl => exact if_pos rfl
    case inr =>
      have hn : e.1 ≠ name := fun he => hne (List.mem_map.mpr ⟨_, hm, he.symm⟩)
      rw [if_neg hn]
      exact hi hr hm

end

variable {root node : Node} {place : List String}

-- What lies behind names lies behind the last of them, below what lies behind the others.
theorem get?_append (root : Node) (place more : List String) :
    root.get? (place ++ more) = (root.get? place).bind (·.get? more) := by
  induction place generalizing root
  case nil => cases root <;> rfl
  case cons name rest hi =>
    cases root
    case directory entries =>
      rw [List.cons_append, get?, get?]
      cases find? name entries
      case none => rfl
      case some child => exact hi child
    all_goals rfl

-- Only a directory has something below it.
theorem get?_concat_eq_some_iff {name : String} :
    root.get? (place ++ [name]) = some node ↔
      ∃ entries, root.get? place = some (.directory entries) ∧ find? name entries = some node := by
  have hd (entries : List (String × Node)) :
      (directory entries).get? [name] = find? name entries := by
    rw [get?]
    cases find? name entries
    case none => rfl
    case some child => cases child <;> rfl
  rw [get?_append, Option.bind_eq_some_iff]
  constructor
  case mp =>
    rintro ⟨child, hc, hn⟩
    cases child
    case directory entries => exact ⟨entries, hc, hd entries ▸ hn⟩
    all_goals cases hn
  case mpr =>
    rintro ⟨entries, hc, hn⟩
    exact ⟨_, hc, (hd entries).trans hn⟩

-- What lies somewhere in a sound tree is sound.
theorem Sound.of_get? (h : root.Sound) (hg : root.get? place = some node) : node.Sound := by
  induction place generalizing root
  case nil =>
    cases root <;> cases hg <;> exact h
  case cons name rest hi =>
    cases h
    case directory entries _ _ hs =>
      rw [get?] at hg
      cases hf : find? name entries <;> simp only [hf] at hg
      case none => cases hg
      case some child => exact hi (hs _ (mem_of_find? hf)) hg
    all_goals cases hg

end Node

namespace FileTree

variable {t : FileTree} {p : Path} {place : Place} {entries : List Entry}

-- An entry of a kind lies under a name in the directory at a place. A link is not followed.
def Holds (t : FileTree) (place : Place) (name : String) (kind : Kind) : Prop :=
  ∃ node, t.root.get? (place ++ [name]) = some node ∧ node.kind = kind

-- A list of entries shows what lies in the directory at a place, each name once.
structure Listed (t : FileTree) (place : Place) (entries : List Entry) : Prop where
  mem_iff    : ∀ name kind, ⟨name, kind⟩ ∈ entries ↔ t.Holds place name kind
  increasing : entries.Pairwise (·.name < ·.name)

theorem exists_resolve_of_list (h : t.list p = .ok entries) :
    ∃ place, t.resolve true p.text = .ok place := by
  rw [list, node] at h
  cases hr : t.resolve true p.text
  case ok place => exact ⟨place, rfl⟩
  case error => rw [hr] at h; cases h

-- What is listed depends on the place alone.
theorem list_eq {q : Path} (hp : t.resolve true p.text = .ok place)
    (hq : t.resolve true q.text = .ok place) : t.list p = t.list q := by
  rw [list, list, node, node, hp, hq]

theorem list_eq_ok (h : t.list p = .ok entries) :
    ∃ place below, t.resolve true p.text = .ok place ∧
      t.root.get? place = some (.directory below) ∧
      entries = (below.map fun e => ⟨e.1, e.2.kind⟩).mergeSort entryLe := by
  rw [list, node] at h
  cases hr : t.resolve true p.text <;> rw [hr] at h
  case error => cases h
  case ok place =>
    cases hg : t.root.get? place <;> simp only [bind, Except.bind, hg] at h
    case none => cases h
    case some node =>
      cases node
      case directory below =>
        cases h
        exact ⟨place, below, rfl, hg, rfl⟩
      all_goals cases h

theorem mem_names_of_kind {name : String} {kind : Kind} :
    name ∈ (entries.filter (·.kind = kind)).map (·.name) ↔ ⟨name, kind⟩ ∈ entries := by
  simp only [List.mem_map, List.mem_filter, decide_eq_true_eq]
  constructor
  case mp =>
    rintro ⟨⟨_, _⟩, ⟨he, rfl⟩, rfl⟩
    exact he
  case mpr => exact fun h => ⟨_, ⟨h, rfl⟩, rfl⟩

-- Entries are sorted by their names, and no two of them have one name.
theorem increasing_mergeSort (h : (entries.map (·.name)).Nodup) :
    (entries.mergeSort entryLe).Pairwise (·.name < ·.name) := by
  have hs : (entries.mergeSort entryLe).Pairwise (entryLe · ·) := by
    refine List.pairwise_mergeSort (fun a b c hab hbc => ?_) (fun a b => ?_) entries
    · exact decide_eq_true <| String.le_trans (of_decide_eq_true hab) (of_decide_eq_true hbc)
    · simpa [entryLe] using String.le_total a.name b.name
  have hp := List.mergeSort_perm entries entryLe
  have hn := List.pairwise_map.mp <| (hp.map (·.name)).nodup_iff.mpr h
  refine (hs.and hn).imp fun {a b} hab => ?_
  have hle : a.name ≤ b.name := of_decide_eq_true hab.1
  exact String.not_le.mp fun hba => hab.2 (String.le_antisymm hle hba)

end FileTree

-- A tree of files as it can lie on a disk.
structure SoundTree extends FileTree where
  sound : root.Sound

instance : Coe SoundTree FileTree := ⟨SoundTree.toFileTree⟩

-- Every name in such a tree can stand between two slashes.
theorem FileTree.Holds.isName {t : SoundTree} {place : FileTree.Place} {name : String} {kind : Kind}
    (h : t.Holds place name kind) : Path.IsName name := by
  have ⟨_, hg, _⟩ := h
  have ⟨below, hg, hf⟩ := Node.get?_concat_eq_some_iff.mp hg
  cases t.sound.of_get? hg
  case directory hi _ => exact hi _ (Node.mem_of_find? hf)

namespace SoundTree

open FileTree

variable {t : SoundTree} {p : Path} {place : Place} {name : String} {entries : List Entry}

theorem exists_listed (h : t.list p = .ok entries) :
    ∃ place, t.resolve true p.text = .ok place ∧ t.Listed place entries := by
  obtain ⟨place, below, hr, hg, rfl⟩ := list_eq_ok h
  have hp := List.mergeSort_perm (below.map fun e => Entry.mk e.1 e.2.kind) entryLe
  cases t.sound.of_get? hg
  case directory hn _ _ =>
    refine ⟨place, hr, ?_, increasing_mergeSort ?_⟩
    case refine_1 =>
      intro name kind
      simp only [Holds, hp.mem_iff, List.mem_map, Node.get?_concat_eq_some_iff, hg,
        Option.some.injEq, Node.directory.injEq, exists_eq_left', Node.find?_eq_some_iff hn]
      constructor
      case mp =>
        rintro ⟨e, he, hk⟩
        cases hk
        exact ⟨e.2, he, rfl⟩
      case mpr =>
        rintro ⟨node, hm, rfl⟩
        exact ⟨(name, node), hm, rfl⟩
    case refine_2 => simpa [List.map_map, Function.comp_def] using hn

-- The path with the name of a directory leads to that directory.
theorem listed_join (hp : t.resolve true p.text = .ok place) (hd : t.Holds place name .directory)
    (h : t.list (p.join name) = .ok entries) : t.Listed (place ++ [name]) entries := by
  have hn := hd.isName
  have ⟨target, hr, hl⟩ := exists_listed h
  have hb := leads_of_resolve hr
  rw [startOf_join hn.flat (text_ne_of_resolve hp)] at hb
  have ⟨node, hg, hk⟩ := hd
  have ⟨above, ha, hf⟩ := Node.get?_concat_eq_some_iff.mp hg
  have hh : hop t.root place name = some (place ++ [name], []) := by
    cases node <;> cases hk
    simp only [hop, ha, hf, Bool.or_eq_true, decide_eq_true_eq]
    rw [if_neg (not_or.mpr ⟨hn.nonempty, hn.ne_here⟩), if_neg hn.ne_up]
  have he : target = place ++ [name] :=
    (leads_of_join hn.flat (text_ne_of_resolve hp) (leads_of_resolve hp) hb).unique
      (.hop hh .done)
  exact he ▸ hl

end SoundTree
end CourseAudit
