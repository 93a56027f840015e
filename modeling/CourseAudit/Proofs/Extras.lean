import CourseAudit.Proofs.Additivity
import CourseAudit.Proofs.Registration

/-!
What a course adds to the built-in signatures. Main statements: `Config.provides` (each key has its
built-in signatures and behind them those that its entries stand for) and `Config.refuses` (a course
is refused for the first entry that stands for nothing, under the first key that holds one).
-/
namespace CourseAudit

namespace ExtraSignature

-- The signature that an entry stands for.
inductive Makes (e : ExtraSignature) : Signature → Prop
  | substring {text : String} : e.substring = some text → e.regex = none →
    Makes e ⟨e.label.getD text, .substring text, ⟨e.minMajor, e.maxMajor⟩⟩
  | pattern {pattern : String} {r : Regex} : e.substring = none → e.regex = some pattern →
    Regex.compile pattern = .ok r →
    Makes e ⟨e.label.getD pattern, .pattern r, ⟨e.minMajor, e.maxMajor⟩⟩

-- Why an entry stands for none.
inductive Refused (e : ExtraSignature) : String → Prop
  | both : e.substring.isSome → e.regex.isSome →
    Refused e "set either `substring` or `regex`, not both"
  | neither : e.substring = none → e.regex = none →
    Refused e "one of `substring` or `regex` is required"
  | pattern {pattern : String} {error : Regex.CompileError} : e.substring = none →
    e.regex = some pattern → Regex.compile pattern = .error error →
    Refused e (error.message pattern)

structure IsWellFormed (e : ExtraSignature) : Prop where
  one      : e.substring.isSome = !e.regex.isSome
  compiles : ∀ pattern, e.regex = some pattern → ∃ r, Regex.compile pattern = .ok r

-- Why a list stands for nothing: its first entry that is refused.
inductive FirstRefused (reason : String) : List ExtraSignature → Prop
  | here {e : ExtraSignature} {rest : List ExtraSignature} : e.Refused reason →
    FirstRefused reason (e :: rest)
  | later {e : ExtraSignature} {rest : List ExtraSignature} : e.IsWellFormed →
    FirstRefused reason rest → FirstRefused reason (e :: rest)

variable {e : ExtraSignature} {s : Signature} {reason : String} {extras : List ExtraSignature}

theorem Makes.isWellFormed (h : e.Makes s) : e.IsWellFormed := by
  cases h
  case substring hs hr => exact ⟨by rw [hs, hr]; rfl, by rw [hr]; nofun⟩
  case pattern hs hr hc =>
    refine ⟨by rw [hs, hr]; rfl, fun pattern hp => ?_⟩
    cases hr.symm.trans hp
    exact ⟨_, hc⟩

theorem Refused.not_isWellFormed (h : e.Refused reason) : ¬e.IsWellFormed := by
  rintro ⟨ho, hp⟩
  cases h
  case both hs hr => simp [hs, hr] at ho
  case neither hs hr => simp [hs, hr] at ho
  case pattern hr hc =>
    have ⟨_, hc'⟩ := hp _ hr
    cases hc.symm.trans hc'

theorem signature_cases (e : ExtraSignature) :
    (∃ s, e.signature = .ok s ∧ e.Makes s) ∨
    ∃ fault, e.signature = .error fault ∧ e.Refused fault.message := by
  rw [signature]
  cases hs : e.substring <;> cases hr : e.regex
  case none.none => exact .inr ⟨_, rfl, .neither hs hr⟩
  case none.some pattern =>
    cases hc : Regex.compile pattern
    case error error => exact .inr ⟨.badPattern pattern error, by simp only [hc], .pattern hs hr hc⟩
    case ok r => exact .inl ⟨_, by simp only [hc]; rfl, .pattern hs hr hc⟩
  case some.none => exact .inl ⟨_, rfl, .substring hs hr⟩
  case some.some => exact .inr ⟨_, rfl, .both (by rw [hs]; rfl) (by rw [hr]; rfl)⟩

theorem signatures_cases (extras : List ExtraSignature) :
    (∃ made, ExtraSignature.signatures extras = .ok made ∧ List.Forall₂ Makes extras made) ∨
    ∃ fault, ExtraSignature.signatures extras = .error fault ∧
      FirstRefused fault.message extras := by
  induction extras
  case nil => exact .inl ⟨[], rfl, .nil⟩
  case cons e extras hi =>
    rw [ExtraSignature.signatures]
    rcases e.signature_cases with ⟨s, he, hm⟩ | ⟨fault, he, hr⟩
    case inr => exact .inr ⟨fault, by rw [he]; rfl, .here hr⟩
    case inl =>
      rcases hi with ⟨made, hs, hf⟩ | ⟨fault, hs, hf⟩
      case inl => exact .inl ⟨s :: made, by rw [he, hs]; rfl, .cons hm hf⟩
      case inr => exact .inr ⟨fault, by rw [he, hs]; rfl, .later hm.isWellFormed hf⟩

theorem forall_isWellFormed {made : List Signature} (h : List.Forall₂ Makes extras made) :
    ∀ e ∈ extras, e.IsWellFormed := by
  induction h
  case nil => exact List.forall_mem_nil _
  case cons hm _ hi => exact List.forall_mem_cons.mpr ⟨hm.isWellFormed, hi⟩

theorem FirstRefused.exists_not_isWellFormed (h : FirstRefused reason extras) :
    ∃ e ∈ extras, ¬e.IsWellFormed := by
  induction h
  case here hr => exact ⟨_, List.mem_cons_self, hr.not_isWellFormed⟩
  case later hi =>
    have ⟨e, he, hn⟩ := hi
    exact ⟨e, List.mem_cons_of_mem _ he, hn⟩

end ExtraSignature

namespace Config

open ExtraSignature (Makes FirstRefused)
open SignatureTable (Lists)

-- Every list stands for signatures under its key.
def Converted (extras : Extras) (lists : Lists) : Prop :=
  List.Forall₂ (fun entry list => entry.1 = list.1 ∧ List.Forall₂ Makes entry.2 list.2) extras lists

-- The built-in signatures of a key, and behind them those of the course.
structure Provides (c : Config) (table : SignatureTable) : Prop where
  increasing : table.keys.Pairwise (· < ·)
  mem_keys   : ∀ key, key ∈ table.keys ↔
    key ∈ SignatureTable.builtin.map (·.1) ∨ key ∈ c.extraSignatures.map (·.1)
  signatures : ∀ key ∈ table.keys, ∃ made,
    List.Forall₂ Makes ((c.extraSignatures.entries.lookup key).getD []) made ∧
    table.find? key = some ((SignatureTable.builtin.lookup key).getD [] ++ made)
  absent     : ∀ key ∉ table.keys, table.find? key = none

-- The key is the first in byte order that holds an entry that is refused.
structure Refuses (c : Config) (key reason : String) : Prop where
  first : ∃ extras, (key, extras) ∈ c.extraSignatures.entries ∧ FirstRefused reason extras
  least : ∀ entry ∈ c.extraSignatures.entries, (∃ e ∈ entry.2, ¬e.IsWellFormed) →
    Text.Utf8.encodeString key ≤ Text.Utf8.encodeString entry.1

variable {c : Config} {extras : Extras} {lists : Lists} {t table : SignatureTable}

theorem addExtras_cases (t : SignatureTable) (extras : Extras) :
    (∃ lists, addExtras t extras = .ok (t.registerAll lists) ∧ Converted extras lists) ∨
    ∃ before key list after fault, addExtras t extras = .error ⟨key, fault⟩ ∧
      extras = before ++ (key, list) :: after ∧
      (∀ entry ∈ before, ∀ e ∈ entry.2, e.IsWellFormed) ∧ FirstRefused fault.message list := by
  induction extras generalizing t
  case nil => exact .inl ⟨[], rfl, .nil⟩
  case cons entry extras hi =>
    obtain ⟨key, list⟩ := entry
    rw [addExtras]
    rcases ExtraSignature.signatures_cases list with ⟨made, hs, hm⟩ | ⟨fault, hs, hf⟩
    case inr =>
      rw [hs]
      exact .inr ⟨[], key, list, extras, fault, rfl, rfl, List.forall_mem_nil _, hf⟩
    case inl =>
      rw [hs]
      rcases hi (t.register key made) with
        ⟨lists, hl, hc⟩ | ⟨before, key', list', after, fault, hl, he, hw, hf⟩
      case inl => exact .inl ⟨(key, made) :: lists, hl, .cons ⟨rfl, hm⟩ hc⟩
      case inr =>
        refine .inr ⟨(key, list) :: before, key', list', after, fault, hl, by rw [he]; rfl, ?_, hf⟩
        exact List.forall_mem_cons.mpr ⟨ExtraSignature.forall_isWellFormed hm, hw⟩

namespace Converted

variable (h : Converted extras lists)
include h

theorem keys_eq : extras.map (·.1) = lists.map (·.1) := by
  induction h
  case nil => rfl
  case cons he _ hi => rw [List.map_cons, List.map_cons, he.1, hi]

theorem nodup (hi : extras.Pairwise (·.1 < ·.1)) : (lists.map (·.1)).Nodup := by
  rw [← h.keys_eq, List.Nodup, List.pairwise_map]
  exact hi.imp fun hlt => String.ne_of_lt hlt

theorem lookup (key : String) :
    List.Forall₂ Makes ((extras.lookup key).getD []) ((lists.lookup key).getD []) := by
  induction h
  case nil => exact .nil
  case cons he _ hi =>
    rw [List.lookup_cons, List.lookup_cons, he.1]
    split
    case h_1 => exact he.2
    case h_2 => exact hi

theorem forall_isWellFormed : ∀ entry ∈ extras, ∀ e ∈ entry.2, e.IsWellFormed := by
  induction h
  case nil => exact List.forall_mem_nil _
  case cons he _ hi =>
    exact List.forall_mem_cons.mpr ⟨ExtraSignature.forall_isWellFormed he.2, hi⟩

end Converted

-- The table is built in as many steps as there are keys, after one for all that is built in, unless
-- one of the entries is refused.
theorem signatureTable_cases (c : Config) :
    (∃ lists, Converted c.extraSignatures.entries lists ∧
      c.signatureTable = .ok (.build (.builtin :: lists.map fun list => .register list.1 list.2))) ∨
    ∃ before key list after fault, c.signatureTable = .error ⟨key, fault⟩ ∧
      c.extraSignatures.entries = before ++ (key, list) :: after ∧
      (∀ entry ∈ before, ∀ e ∈ entry.2, e.IsWellFormed) ∧ FirstRefused fault.message list := by
  rcases addExtras_cases .standard c.extraSignatures.entries with ⟨lists, hl, hc⟩ | hf
  case inl => exact .inl ⟨lists, hc, SignatureTable.registerAll_standard lists ▸ hl⟩
  case inr => exact .inr hf

theorem exists_signatureTable_iff :
    (∃ table, c.signatureTable = .ok table) ↔
      ∀ entry ∈ c.extraSignatures.entries, ∀ e ∈ entry.2, e.IsWellFormed := by
  rcases c.signatureTable_cases with ⟨_, hc, hl⟩ | ⟨_, key, list, _, _, hl, he, -, hf⟩
  case inl => exact iff_of_true ⟨_, hl⟩ hc.forall_isWellFormed
  case inr =>
    refine iff_of_false (fun ⟨table, ht⟩ => nomatch hl.symm.trans ht) fun hw => ?_
    have ⟨e, hm, hn⟩ := hf.exists_not_isWellFormed
    exact hn (hw (key, list) (by simp [he]) e hm)

theorem exists_build (h : c.signatureTable = .ok table) :
    ∃ lists, Converted c.extraSignatures.entries lists ∧
      table = .build (.builtin :: lists.map fun list => .register list.1 list.2) := by
  rcases c.signatureTable_cases with ⟨lists, hc, hl⟩ | ⟨_, _, _, _, _, hl, _⟩
  case inl => exact ⟨lists, hc, Except.ok.inj (h.symm.trans hl)⟩
  case inr => cases hl.symm.trans h

theorem provides (h : c.signatureTable = .ok table) : c.Provides table := by
  have ⟨lists, hc, ht⟩ := exists_build h
  refine ⟨table.keys_increase, fun key => ?_, fun key hk => ?_, fun key hk => ?_⟩
  case refine_1 => rw [SignatureTable.mem_keys, isSome_find?_iff h, HasOwn]
  case refine_2 =>
    refine ⟨_, hc.lookup key, ?_⟩
    obtain ⟨signatures, hf⟩ := Option.isSome_iff_exists.mp (SignatureTable.mem_keys.mp hk)
    rw [hf]
    rw [ht, SignatureTable.find?_build_eq_some_iff] at hf
    rw [← hf.2, List.flatMap_cons, SignatureTable.flatMap_under, SignatureTable.Step.under,
      SignatureTable.Step.lists, SignatureTable.listed_of_nodup SignatureTable.builtin_nodup,
      SignatureTable.listed_of_nodup (hc.nodup c.extraSignatures.increasing)]
  case refine_3 => simpa [SignatureTable.mem_keys] using hk

theorem refuses {f : SignatureFault} (h : c.signatureTable = .error f) :
    c.Refuses f.key f.fault.message ∧
      f.message = "extra_signatures." ++ f.key ++ ": " ++ f.fault.message := by
  refine ⟨?_, rfl⟩
  rcases c.signatureTable_cases with ⟨_, _, hl⟩ | ⟨_, key, list, _, _, hl, he, hw, hf⟩
  case inl => cases hl.symm.trans h
  case inr =>
    cases hl.symm.trans h
    refine ⟨⟨list, by simp [he], hf⟩, ?_⟩
    rintro entry hm ⟨e, hme, hne⟩
    rw [Text.Utf8.encodeString_le_iff]
    have ho := c.extraSignatures.increasing
    rw [he, List.pairwise_append, List.pairwise_cons] at ho
    rw [he, List.mem_append, List.mem_cons] at hm
    rcases hm with hm | rfl | hm
    case inl => exact (hne (hw entry hm e hme)).elim
    case inr.inl => exact String.le_refl _
    case inr.inr => exact String.not_lt.mp (String.lt_asymm (ho.2.1.1 entry hm))

end Config
end CourseAudit
