import CourseAudit.Proofs.Listing

/-!
Walks through directories. A walk goes down a number of levels and comes by every entry on them, in
each directory in the byte order of the names, a directory right before what it holds. Where a
directory cannot be listed the walk says so and goes on behind it. Main statements: `walk_of_ok`
and `walk_of_error`.
-/
namespace CourseAudit
namespace FileTree

-- What the directories of a disk list, or why they do not. A directory can be closed to a reader
-- for more reasons than a tree of files knows. No directory shows a name twice, and every name can
-- stand between two slashes.
structure Lister where
  list   : Path → Except OsError (List Entry)
  nodup  : ∀ {directory entries}, list directory = .ok entries → (entries.map (·.name)).Nodup
  isName : ∀ {directory entries}, list directory = .ok entries → ∀ e ∈ entries, Path.IsName e.name

instance : CoeFun Lister fun _ => Path → Except OsError (List Entry) := ⟨Lister.list⟩

-- What a walk comes by. The entries of the directory that it starts from have depth one.
inductive Visit where
  | entry (depth : Nat) (path : Path) (kind : Kind)
  | unlisted (path : Path) (error : OsError)

namespace Lister

-- What a walk comes by because of one entry of a directory.
def visits (below : Path → List Visit) (depth : Nat) (directory : Path) (e : Entry) : List Visit :=
  .entry depth (directory.join e.name) e.kind ::
    if e.kind = .directory then below (directory.join e.name) else []

def walk (list : Lister) : Nat → Nat → Path → List Visit
  | 0, _, _ => []
  | levels + 1, depth, directory =>
    match list directory with
    | .error e => [.unlisted directory e]
    | .ok entries =>
      (entries.mergeSort entryLe).flatMap (visits (list.walk levels (depth + 1)) depth directory)

def Listable (list : Lister) (directory : Path) : Prop :=
  ∃ entries, list directory = .ok entries

-- A directory can be listed and shows an entry of a kind under a name.
def Shows (list : Lister) (directory : Path) (name : String) (kind : Kind) : Prop :=
  ∃ entries, list directory = .ok entries ∧ ⟨name, kind⟩ ∈ entries

variable {list : Lister} {directory : Path} {name : String} {kind : Kind} {entries : List Entry}

theorem walk_of_error {e : OsError} (h : list directory = .error e) (levels depth : Nat) :
    list.walk (levels + 1) depth directory = [.unlisted directory e] := by
  rw [walk, h]

theorem walk_of_ok (h : list directory = .ok entries) (levels depth : Nat) :
    list.walk (levels + 1) depth directory =
      (entries.mergeSort entryLe).flatMap
        (visits (list.walk levels (depth + 1)) depth directory) := by
  rw [walk, h]

-- On its last level a walk looks into no directory.
theorem walk_one_of_ok (h : list directory = .ok entries) (depth : Nat) :
    list.walk 1 depth directory =
      (entries.mergeSort entryLe).map fun e => .entry depth (directory.join e.name) e.kind := by
  have hv : visits (list.walk 0 (depth + 1)) depth directory =
      fun e => [.entry depth (directory.join e.name) e.kind] := by
    funext e
    rw [visits, walk, ite_self]
  rw [walk_of_ok h, hv, List.map_eq_flatMap]

theorem shows_iff (h : list directory = .ok entries) :
    list.Shows directory name kind ↔ ⟨name, kind⟩ ∈ entries := by
  constructor
  case mp =>
    rintro ⟨entries', h', he⟩
    cases h.symm.trans h'
    exact he
  case mpr => exact fun he => ⟨entries, h, he⟩

theorem not_listable_iff : ¬list.Listable directory ↔ ∃ e, list directory = .error e := by
  rw [Listable]
  cases list directory <;> simp

theorem Shows.listable (h : list.Shows directory name kind) : list.Listable directory :=
  have ⟨entries, h, _⟩ := h
  ⟨entries, h⟩

theorem Shows.isName (h : list.Shows directory name kind) : Path.IsName name :=
  have ⟨_, h, he⟩ := h
  list.isName h _ he

theorem increasing (h : list directory = .ok entries) :
    (entries.mergeSort entryLe).Pairwise (·.name < ·.name) :=
  increasing_mergeSort (list.nodup h)

theorem isName_of_mem (h : list directory = .ok entries) :
    ∀ e ∈ entries.mergeSort entryLe, Path.IsName e.name :=
  fun e he => list.isName h e (List.mem_mergeSort.mp he)

-- The same disk for a reader whom some directories are closed to.
def closing (list : Lister) (closed : Path → Bool) : Lister where
  list directory := if closed directory then .error .permissionDenied else list directory
  nodup h := by
    split at h
    case isTrue => cases h
    case isFalse => exact list.nodup h
  isName h := by
    split at h
    case isTrue => cases h
    case isFalse => exact list.isName h

end Lister
end FileTree

namespace SoundTree

open FileTree

variable {t : SoundTree} {p : Path} {entries : List Entry}

-- None of the directories of a tree of files is closed.
def lister (t : SoundTree) : Lister where
  list := t.list
  nodup h := by
    have ⟨_, _, hl⟩ := exists_listed h
    exact List.pairwise_map.mpr (hl.increasing.imp String.ne_of_lt)
  isName h e he := by
    have ⟨_, _, hl⟩ := exists_listed h
    exact ((hl.mem_iff ..).mp he).isName

@[simp]
theorem lister_apply (t : SoundTree) (p : Path) : t.lister p = t.list p :=
  rfl

-- A tree of files lists its directories in the order in which a walk goes through them.
theorem mergeSort_list (h : t.list p = .ok entries) : entries.mergeSort entryLe = entries := by
  have ⟨_, _, hl⟩ := exists_listed h
  exact List.mergeSort_of_pairwise <| hl.increasing.imp fun hlt => decide_eq_true (Std.le_of_lt hlt)

end SoundTree
end CourseAudit
