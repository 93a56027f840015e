import CourseAudit.Signature.Basic
import CourseAudit.Tool.Basic

/-!
The signatures of each tool, under the short name of the tool. Main statement: `find?_register`,
which says that registering appends to the list of one key and leaves all others as they are.
-/
namespace CourseAudit

-- No key has two lists.
structure SignatureTable where
  entries : List (String × List Signature)
  nodup : (entries.map (·.1)).Nodup

namespace SignatureTable

def empty : SignatureTable := ⟨[], .nil⟩

def find?In (key : String) : List (String × List Signature) → Option (List Signature)
  | [] => none
  | (k, signatures) :: rest => if k = key then some signatures else find?In key rest

def find? (t : SignatureTable) (key : String) : Option (List Signature) :=
  find?In key t.entries

def registerIn (key : String) (signatures : List Signature) :
    List (String × List Signature) → List (String × List Signature)
  | [] => [(key, signatures)]
  | (k, old) :: rest =>
    if k = key then (k, old ++ signatures) :: rest else (k, old) :: registerIn key signatures rest

theorem map_registerIn (key : String) (signatures : List Signature)
    (entries : List (String × List Signature)) :
    (registerIn key signatures entries).map (·.1) =
      if key ∈ entries.map (·.1) then entries.map (·.1) else entries.map (·.1) ++ [key] := by
  induction entries with
  | nil => rfl
  | cons entry rest ih =>
    by_cases hk : entry.1 = key
    · simp [registerIn, hk]
    · by_cases hm : key ∈ rest.map (·.1) <;> simp_all [registerIn, Ne.symm hk]

theorem nodup_registerIn {key : String} {signatures : List Signature}
    {entries : List (String × List Signature)} (h : (entries.map (·.1)).Nodup) :
    ((registerIn key signatures entries).map (·.1)).Nodup := by
  rw [map_registerIn]
  split
  case isTrue => exact h
  case isFalse hk =>
    refine List.nodup_append.mpr ⟨h, by simp, fun a ha b hb he => hk ?_⟩
    rwa [← List.mem_singleton.mp hb, ← he]

-- Appends signatures to the list of a key.
def register (t : SignatureTable) (key : String) (signatures : List Signature) : SignatureTable :=
  ⟨registerIn key signatures t.entries, nodup_registerIn t.nodup⟩

theorem find?_register (t : SignatureTable) (key other : String) (signatures : List Signature) :
    (t.register key signatures).find? other =
      if key = other then some ((t.find? other).getD [] ++ signatures) else t.find? other := by
  simp only [register, find?]
  generalize t.entries = entries
  induction entries with
  | nil => simp [registerIn, find?In]
  | cons entry rest ih =>
    obtain ⟨k, old⟩ := entry
    by_cases hk : k = key
    · subst hk
      by_cases ho : k = other <;> simp [registerIn, find?In, ho]
    · by_cases ho : k = other
      · subst ho
        simp [registerIn, find?In, hk, Ne.symm hk]
      · simp [registerIn, find?In, hk, ho, ih]

def insertKey (key : String) : List String → List String
  | [] => [key]
  | k :: rest => if key ≤ k then key :: k :: rest else k :: insertKey key rest

-- The keys in byte order.
def keys (t : SignatureTable) : List String :=
  (t.entries.map (·.1)).foldr insertKey []

-- The key of the signatures for analyzers that have none of their own.
def analyzerKey : String := "static-analyzer"

def signaturesFor (t : SignatureTable) (tool : Tool) : List Signature :=
  match t.find? tool.shortName with
  | some signatures => signatures
  | none =>
    match tool with
    | .analyzer _ => (t.find? analyzerKey).getD []
    | _ => []

-- The diagnostics of the usual sanitizers and analyzers.
def builtin : List (String × List Signature) := [
  ("compile", ["error:", "fatal error:", "undefined reference to"].map .substring),
  ("asan", [
    "ERROR: AddressSanitizer",
    "heap-use-after-free",
    "heap-buffer-overflow",
    "stack-buffer-overflow",
    "global-buffer-overflow",
    "stack-use-after-return",
    "stack-use-after-scope",
    "attempting double-free",
    "ERROR: LeakSanitizer",
    "detected memory leaks",
    "SEGV"].map .substring),
  ("tsan", [
    "WARNING: ThreadSanitizer",
    "data race",
    "lock-order-inversion",
    "thread leak"].map .substring),
  ("ubsan", [
    "runtime error:",
    "UndefinedBehaviorSanitizer",
    "undefined behavior"].map .substring),
  ("cppcheck", [.analyzerReport]),
  ("clang-tidy", [.analyzerReport]),
  (analyzerKey, [.analyzerReport])]

def registerAll (t : SignatureTable) (lists : List (String × List Signature)) : SignatureTable :=
  lists.foldl (fun t (key, signatures) => t.register key signatures) t

def withBuiltin (t : SignatureTable) : SignatureTable :=
  t.registerAll builtin

def standard : SignatureTable :=
  empty.withBuiltin

end SignatureTable
end CourseAudit
