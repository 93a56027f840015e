import CourseAudit.Proofs.ByteOrder
import CourseAudit.Signature.Table

/-!
A table of signatures as the work of many steps. Main statements: `find?_build_eq_some_iff` (a key
has what the steps registered under it, in the order of the steps) and `agrees_of_apart` (steps for
different keys can change places).
-/
namespace CourseAudit.SignatureTable

abbrev Lists := List (String × List Signature)

-- What lists hold for a key, one after the other.
def listed (key : String) (lists : Lists) : List Signature :=
  (lists.filter (·.1 = key)).flatMap (·.2)

-- Tables that nobody can tell apart.
def Agrees (t t' : SignatureTable) : Prop :=
  ∀ key, t.find? key = t'.find? key

-- What can be done to a table while it is built.
inductive Step where
  | builtin
  | register (key : String) (signatures : List Signature)

namespace Step

def lists : Step → Lists
  | builtin => SignatureTable.builtin
  | register key signatures => [(key, signatures)]

def apply (t : SignatureTable) : Step → SignatureTable
  | builtin => t.withBuiltin
  | register key signatures => t.register key signatures

def Names (key : String) (s : Step) : Prop :=
  key ∈ s.lists.map (·.1)

-- What a step registers under a key.
def under (key : String) (s : Step) : List Signature :=
  listed key s.lists

-- The steps are for different keys.
def Apart (s s' : Step) : Prop :=
  ∀ key, s.Names key → ¬s'.Names key

end Step

def build (steps : List Step) : SignatureTable :=
  steps.foldl Step.apply .empty

variable {t t' : SignatureTable} {lists : Lists} {key : String} {signatures : List Signature}

/-! ### Many lists at once -/

theorem listed_cons {list : String × List Signature} :
    listed key (list :: lists) = (if list.1 = key then list.2 else []) ++ listed key lists := by
  rw [listed, List.filter_cons]
  split <;> simp_all [listed]

theorem listed_of_not_mem (h : key ∉ lists.map (·.1)) : listed key lists = [] := by
  have hf : lists.filter (·.1 = key) = [] := by
    simp only [List.filter_eq_nil_iff, decide_eq_true_eq]
    exact fun list hl he => h (List.mem_map.mpr ⟨list, hl, he⟩)
  rw [listed, hf, List.flatMap_nil]

-- With every key once, a key has one list.
theorem listed_of_nodup (h : (lists.map (·.1)).Nodup) :
    listed key lists = (lists.lookup key).getD [] := by
  induction lists
  case nil => rfl
  case cons list lists hi =>
    obtain ⟨k, signatures⟩ := list
    have ⟨hk, hn⟩ := List.nodup_cons.mp h
    rw [listed_cons, List.lookup_cons]
    by_cases he : k = key
    case pos =>
      subst he
      simp [listed_of_not_mem hk]
    case neg =>
      rw [if_neg he, hi hn, beq_false_of_ne (Ne.symm he)]
      rfl

theorem builtin_nodup : (builtin.map (·.1)).Nodup := by
  decide

theorem find?_registerAll (t : SignatureTable) (lists : Lists) (key : String) :
    (t.registerAll lists).find? key =
      if key ∈ lists.map (·.1) then some ((t.find? key).getD [] ++ listed key lists)
      else t.find? key := by
  induction lists generalizing t
  case nil => rfl
  case cons list lists hi =>
    rw [registerAll, List.foldl_cons, ← registerAll, hi, find?_register, listed_cons]
    by_cases he : list.1 = key
    case pos =>
      by_cases hm : key ∈ lists.map (·.1)
      case pos => simp [he, hm]
      case neg => simp [he, hm, listed_of_not_mem hm]
    case neg =>
      have hm : key ∈ (list :: lists).map (·.1) ↔ key ∈ lists.map (·.1) := by
        rw [List.map_cons, List.mem_cons, or_iff_right (Ne.symm he)]
      rw [if_neg he, if_neg he, List.nil_append]
      simp only [hm]

/-! ### The keys of a table -/

theorem isSome_find?In {entries : Lists} :
    (find?In key entries).isSome ↔ key ∈ entries.map (·.1) := by
  induction entries
  case nil => simp [find?In]
  case cons entry entries hi =>
    rw [find?In, List.map_cons, List.mem_cons]
    split
    case isTrue he => exact iff_of_true rfl (.inl he.symm)
    case isFalse he => rw [hi, or_iff_right (Ne.symm he)]

theorem insertKey_eq (key : String) (names : List String) :
    insertKey key names = names.orderedInsert (· ≤ ·) key := by
  induction names
  case nil => rfl
  case cons name names hi => rw [insertKey, List.orderedInsert, hi]

theorem keys_eq (t : SignatureTable) : t.keys = (t.entries.map (·.1)).insertionSort (· ≤ ·) := by
  rw [keys, List.insertionSort, funext₂ insertKey_eq]

theorem mem_keys : key ∈ t.keys ↔ (t.find? key).isSome := by
  rw [keys_eq, List.mem_insertionSort, find?, isSome_find?In]

theorem keys_increase (t : SignatureTable) : t.keys.Pairwise (· < ·) := by
  have : Std.Total fun a b : String => a ≤ b := ⟨String.le_total⟩
  have : IsTrans String (· ≤ ·) := ⟨fun _ _ _ => String.le_trans⟩
  have hp := List.perm_insertionSort (· ≤ ·) (t.entries.map (·.1))
  have hs := List.pairwise_insertionSort (· ≤ ·) (t.entries.map (·.1))
  rw [keys_eq]
  exact (hs.and (hp.nodup_iff.mpr t.nodup)).imp fun ⟨hle, hne⟩ =>
    String.not_le.mp fun hge => hne (String.le_antisymm hle hge)

theorem Agrees.keys_eq (h : t.Agrees t') : t.keys = t'.keys :=
  increasing_ext id t.keys_increase t'.keys_increase fun key => by
    rw [mem_keys, mem_keys, h key]

theorem Agrees.signaturesFor_eq (h : t.Agrees t') (tool : Tool) :
    t.signaturesFor tool = t'.signaturesFor tool := by
  unfold signaturesFor
  rw [h, h]

/-! ### Building a table -/

variable {steps before after : List Step} {s a b : Step}

theorem Step.apply_eq (t : SignatureTable) (s : Step) : s.apply t = t.registerAll s.lists := by
  cases s <;> rfl

theorem Step.under_of_not (h : ¬s.Names key) : s.under key = [] :=
  listed_of_not_mem h

theorem foldl_apply (t : SignatureTable) (steps : List Step) :
    steps.foldl Step.apply t = t.registerAll (steps.flatMap Step.lists) := by
  induction steps generalizing t
  case nil => rfl
  case cons s steps hi =>
    rw [List.foldl_cons, hi, Step.apply_eq, List.flatMap_cons]
    exact List.foldl_append.symm

theorem flatMap_lists (lists : Lists) :
    (lists.map fun list => Step.register list.1 list.2).flatMap Step.lists = lists := by
  rw [List.flatMap_map]
  exact List.flatMap_singleton' lists

theorem listed_flatMap :
    listed key (steps.flatMap Step.lists) = steps.flatMap (Step.under key) := by
  rw [listed, List.filter_flatMap, List.flatMap_assoc]
  rfl

theorem flatMap_under (key : String) (lists : Lists) :
    (lists.map fun list => Step.register list.1 list.2).flatMap (Step.under key) =
      listed key lists := by
  rw [← listed_flatMap, flatMap_lists]

theorem registerAll_standard (lists : Lists) :
    standard.registerAll lists =
      build (.builtin :: lists.map fun list => .register list.1 list.2) := by
  rw [build, List.foldl_cons, foldl_apply, flatMap_lists]
  rfl

theorem find?_build_eq_some_iff :
    (build steps).find? key = some signatures ↔
      (∃ s ∈ steps, s.Names key) ∧ steps.flatMap (Step.under key) = signatures := by
  have hm : key ∈ (steps.flatMap Step.lists).map (·.1) ↔ ∃ s ∈ steps, s.Names key := by
    rw [List.map_flatMap, List.mem_flatMap]
    rfl
  rw [build, foldl_apply, find?_registerAll, ← hm, listed_flatMap]
  split
  case isTrue h => exact ⟨fun he => ⟨h, Option.some.inj he⟩, fun ⟨_, he⟩ => congrArg some he⟩
  case isFalse h => exact ⟨nofun, fun ⟨hk, _⟩ => (h hk).elim⟩

theorem agrees_of_apart (h : a.Apart b) :
    (build (before ++ a :: b :: after)).Agrees (build (before ++ b :: a :: after)) := by
  intro key
  have hu : a.under key ++ b.under key = b.under key ++ a.under key := by
    by_cases ha : a.Names key
    case pos => simp [Step.under_of_not (h key ha)]
    case neg => simp [Step.under_of_not ha]
  have hp : (before ++ a :: b :: after).Perm (before ++ b :: a :: after) :=
    (List.Perm.swap b a after).append_left before
  ext signatures
  simp only [find?_build_eq_some_iff, hp.mem_iff, List.flatMap_append, List.flatMap_cons]
  rw [← List.append_assoc (a.under key), hu, List.append_assoc]

end CourseAudit.SignatureTable
