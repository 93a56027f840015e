/-!
Maps from texts, in the byte order of their keys.
-/
namespace CourseAudit

structure SortedMap (α : Type) where
  entries : List (String × α)
  increasing : entries.Pairwise (·.1 < ·.1)

namespace SortedMap

variable {α : Type} {key : String} {x : α} {entries : List (String × α)}

def empty : SortedMap α := ⟨[], .nil⟩

def insertIn (key : String) (x : α) : List (String × α) → List (String × α)
  | [] => [(key, x)]
  | (k, y) :: rest =>
    if key < k then (key, x) :: (k, y) :: rest
    else if key = k then (key, x) :: rest
    else (k, y) :: insertIn key x rest

theorem eq_or_mem_of_mem_insertIn {entry : String × α} (h : entry ∈ insertIn key x entries) :
    entry = (key, x) ∨ entry ∈ entries := by
  induction entries with
  | nil => exact .inl (List.mem_singleton.mp h)
  | cons first rest ih =>
    rw [insertIn] at h
    split at h
    case isTrue => exact List.mem_cons.mp h
    case isFalse =>
      split at h
      case isTrue => exact (List.mem_cons.mp h).imp_right (List.mem_cons_of_mem _)
      case isFalse =>
        rcases List.mem_cons.mp h with rfl | h
        · exact .inr List.mem_cons_self
        · exact (ih h).imp_right (List.mem_cons_of_mem _)

-- A key takes its place between the smaller and the larger ones.
theorem insertIn_increasing (h : entries.Pairwise (·.1 < ·.1)) :
    (insertIn key x entries).Pairwise (·.1 < ·.1) := by
  induction entries with
  | nil => exact List.pairwise_singleton ..
  | cons first rest ih =>
    have ⟨hf, hr⟩ := List.pairwise_cons.mp h
    rw [insertIn]
    split
    case isTrue hlt =>
      exact .cons (List.forall_mem_cons.mpr ⟨hlt, fun e he => String.lt_trans hlt (hf e he)⟩) h
    case isFalse hlt =>
      split
      case isTrue he => exact .cons (he ▸ hf) hr
      case isFalse hne =>
        refine .cons (fun entry hm => ?_) (ih hr)
        rcases eq_or_mem_of_mem_insertIn hm with rfl | hm
        · exact String.not_le.mp fun hle => hne (String.le_antisymm hle (String.not_lt.mp hlt))
        · exact hf entry hm

-- Sets a key.
def insert (m : SortedMap α) (key : String) (x : α) : SortedMap α :=
  ⟨insertIn key x m.entries, insertIn_increasing m.increasing⟩

-- The last value of a key counts.
def ofList (entries : List (String × α)) : SortedMap α :=
  entries.foldl (fun m (k, x) => m.insert k x) empty

def find? (m : SortedMap α) (key : String) : Option α :=
  (m.entries.find? (·.1 = key)).map (·.2)

-- What is made of the entries, in their order.
def map {β : Type} (m : SortedMap α) (f : String × α → β) : List β :=
  m.entries.map f

end SortedMap
end CourseAudit
