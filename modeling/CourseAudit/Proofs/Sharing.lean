import CourseAudit.Proofs.Extras
import CourseAudit.Proofs.Readings

/-!
Signatures that analyzers share. They count for every analyzer without signatures of its own and for
no other. Main statement: `Config.classify_shared`.
-/
namespace CourseAudit

namespace ExtraSignature

variable {e : ExtraSignature} {s s' : Signature}

theorem Makes.unique (h : e.Makes s) (h' : e.Makes s') : s = s' := by
  cases h <;> cases h' <;> simp_all

theorem mem_of_makes {extras : List ExtraSignature} {made : List Signature}
    (h : List.Forall₂ Makes extras made) (he : e ∈ extras) (hs : e.Makes s) : s ∈ made := by
  induction h
  case nil => cases he
  case cons hm _ hi =>
    rcases List.mem_cons.mp he with rfl | he
    case inl => exact hs.unique hm ▸ List.mem_cons_self
    case inr => exact List.mem_cons_of_mem _ (hi he)

end ExtraSignature

namespace Classifier

variable {c : Classifier} {run : ToolRun}

theorem Labels.mem {signatures : List Signature} {labels : List String} {s : Signature}
    (h : c.Labels run signatures labels) (hs : s ∈ signatures) (hf : c.Finds run s) :
    s.label ∈ labels := by
  induction h
  case nil => cases hs
  case found hi =>
    rcases List.mem_cons.mp hs with rfl | hs
    case inl => exact List.mem_cons_self
    case inr => exact List.mem_cons_of_mem _ (hi hs)
  case missed hn _ hi =>
    rcases List.mem_cons.mp hs with rfl | hs
    case inl => exact (hn hf).elim
    case inr => exact hi hs

theorem exists_defect_of_finds {s : Signature} (hc : run.tool ≠ .compiler)
    (ht : run.timedOut = false) (hs : s ∈ c.table.signaturesFor run.tool) (hf : c.Finds run s) :
    ∃ labels, c.classify run = .defect labels ∧ s.label ∈ labels := by
  have hr := c.classify_reading run
  have ⟨labels, hl⟩ := hr.exists_eq_defect_iff.mpr ⟨ht, hc, s, hs, hf⟩
  rw [hl] at hr
  exact ⟨labels, hl, hr.labels_of_defect.mem hs hf⟩

-- Of a table only the signatures of the tool matter.
theorem classify_congr {table table' : SignatureTable} (major : Option UInt32)
    (h : table.signaturesFor run.tool = table'.signaturesFor run.tool) :
    classify ⟨table, major⟩ run = classify ⟨table', major⟩ run := by
  simp only [classify, applicable, h]

end Classifier

namespace Config

open SignatureTable (analyzerKey)

variable {c : Config} {table : SignatureTable} {name : String}

theorem Converted.exists_of_mem {extras : Extras} {lists : SignatureTable.Lists}
    (h : Converted extras lists) {key : String} {list : List ExtraSignature}
    (hm : (key, list) ∈ extras) :
    ∃ made, (key, made) ∈ lists ∧ List.Forall₂ ExtraSignature.Makes list made := by
  induction h
  case nil => cases hm
  case cons entry made _ _ hd _ hi =>
    obtain ⟨_, _⟩ := entry
    obtain ⟨_, made⟩ := made
    obtain ⟨rfl, hd⟩ := hd
    rcases List.mem_cons.mp hm with hm | hm
    case inl =>
      cases hm
      exact ⟨made, List.mem_cons_self, hd⟩
    case inr =>
      have ⟨made, hl, hf⟩ := hi hm
      exact ⟨made, List.mem_cons_of_mem _ hl, hf⟩

-- What a course adds under a key is found there.
theorem mem_find?_of_makes (h : c.signatureTable = .ok table) {key : String}
    {extras : List ExtraSignature} {e : ExtraSignature} {s : Signature}
    (hm : (key, extras) ∈ c.extraSignatures.entries) (he : e ∈ extras) (hs : e.Makes s) :
    ∃ signatures, table.find? key = some signatures ∧ s ∈ signatures := by
  have ⟨lists, hc, ht⟩ := exists_build h
  have ⟨made, hl, hf⟩ := hc.exists_of_mem hm
  refine ⟨_, ht ▸ SignatureTable.find?_build_eq_some_iff.mpr ⟨?_, rfl⟩, ?_⟩
  case refine_1 =>
    rw [List.flatMap_cons, SignatureTable.flatMap_under, SignatureTable.listed]
    refine List.mem_append_right _ (List.mem_flatMap.mpr ⟨_, List.mem_filter.mpr ⟨hl, ?_⟩, ?_⟩)
    case refine_1 => exact decide_eq_true rfl
    case refine_2 => exact ExtraSignature.mem_of_makes hf he hs
  case refine_2 =>
    refine ⟨.register key made, List.mem_cons_of_mem _ (List.mem_map.mpr ⟨_, hl, rfl⟩), ?_⟩
    exact List.mem_singleton_self key

theorem signaturesFor_shared (h : c.signatureTable = .ok table)
    (hn : name = analyzerKey ∨ ¬c.HasOwn name) :
    table.signaturesFor (.analyzer name) = (table.find? analyzerKey).getD [] := by
  cases hf : table.find? name
  case none => exact SignatureTable.signaturesFor_analyzer_of_none hf
  case some signatures =>
    have hs : (table.find? name).isSome := by rw [hf]; rfl
    rcases hn with rfl | hn
    case inl => rw [SignatureTable.signaturesFor_of_some hf, hf]; rfl
    case inr => exact (hn <| (isSome_find?_iff h name).mp hs).elim

-- Leaving out what is added under one key changes nothing under the others.
theorem find?_addExtras_filter {extras : Extras} {key : String} {t t' u : SignatureTable}
    (h : addExtras t extras = .ok u) (ht : t.find? name = t'.find? name) (hn : name ≠ key) :
    ∃ u', addExtras t' (extras.filter (·.1 ≠ key)) = .ok u' ∧ u.find? name = u'.find? name := by
  induction extras generalizing t t'
  case nil => cases h; exact ⟨t', rfl, ht⟩
  case cons entry extras hi =>
    obtain ⟨other, list⟩ := entry
    rw [addExtras] at h
    cases hs : ExtraSignature.signatures list <;> rw [hs] at h
    case error => cases h
    case ok signatures =>
      by_cases hk : other = key
      case pos =>
        rw [List.filter_cons_of_neg (by simpa using hk)]
        refine hi h ?_
        rw [SignatureTable.find?_register, if_neg (hk ▸ hn.symm), ht]
      case neg =>
        rw [List.filter_cons_of_pos (by simpa using hk), addExtras, hs]
        refine hi h ?_
        rw [SignatureTable.find?_register, SignatureTable.find?_register, ht]

-- The configuration without the signatures that analyzers share.
def unshared (c : Config) : Config :=
  { c with extraSignatures := ⟨c.extraSignatures.entries.filter (·.1 ≠ analyzerKey),
    c.extraSignatures.increasing.filter _⟩ }

theorem signaturesFor_own (h : c.signatureTable = .ok table) (hn : name ≠ analyzerKey)
    (ho : c.HasOwn name) :
    ∃ table', c.unshared.signatureTable = .ok table' ∧
      table.signaturesFor (.analyzer name) = table'.signaturesFor (.analyzer name) := by
  have ⟨table', h', hf⟩ := find?_addExtras_filter h
    (rfl : SignatureTable.standard.find? name = SignatureTable.standard.find? name) hn
  obtain ⟨signatures, hs⟩ := Option.isSome_iff_exists.mp <| (isSome_find?_iff h name).mpr ho
  refine ⟨table', h', ?_⟩
  rw [SignatureTable.signaturesFor_of_some hs, SignatureTable.signaturesFor_of_some (hf ▸ hs)]

-- An analyzer without signatures of its own is read by those that analyzers share. Any other one is
-- read as if there were none of them.
theorem classify_shared (h : c.signatureTable = .ok table) (major : Option UInt32) {run : ToolRun}
    (hr : run.tool = .analyzer name) :
    (name = analyzerKey ∨ ¬c.HasOwn name → run.timedOut = false →
      ∀ extras e s, (analyzerKey, extras) ∈ c.extraSignatures.entries → e ∈ extras → e.Makes s →
        Classifier.Finds ⟨table, major⟩ run s →
        ∃ labels, Classifier.classify ⟨table, major⟩ run = .defect labels ∧ s.label ∈ labels) ∧
    (name ≠ analyzerKey → c.HasOwn name →
      ∃ table', c.unshared.signatureTable = .ok table' ∧
        Classifier.classify ⟨table, major⟩ run = Classifier.classify ⟨table', major⟩ run) := by
  constructor
  case left =>
    intro hn ht extras e s hm he hs hf
    have ⟨signatures, hk, hmem⟩ := mem_find?_of_makes h hm he hs
    refine Classifier.exists_defect_of_finds (hr ▸ nofun) ht ?_ hf
    rw [hr, signaturesFor_shared h hn, hk]
    exact hmem
  case right =>
    intro hn ho
    have ⟨table', h', hs⟩ := signaturesFor_own h hn ho
    exact ⟨table', h', Classifier.classify_congr major (hr ▸ hs)⟩

end Config

namespace Sample

-- A signature for all analyzers, and one for a single one.
def shared : Config :=
  withExtras ⟨[("cppcheck", [extra "nullPointer"]), ("static-analyzer", [extra "V501"])],
    by decide⟩

theorem shared_signature_found :
    ∃ table labels table', shared.signatureTable = .ok table ∧
      Classifier.classify ⟨table, some 13⟩ (runOf "pvs-studio" "a.cpp: V501") = .defect labels ∧
      "V501" ∈ labels ∧ shared.unshared.signatureTable = .ok table' ∧
      Classifier.classify ⟨table, some 13⟩ (runOf "cppcheck" "nullPointer, V501") =
        Classifier.classify ⟨table', some 13⟩ (runOf "cppcheck" "nullPointer, V501") := by
  have ⟨table, h⟩ : ∃ table, shared.signatureTable = .ok table := ⟨_, rfl⟩
  have ⟨hs, _⟩ := Config.classify_shared h (some 13)
    (rfl : (runOf "pvs-studio" "a.cpp: V501").tool = .analyzer "pvs-studio")
  have ⟨_, ho⟩ := Config.classify_shared h (some 13)
    (rfl : (runOf "cppcheck" "nullPointer, V501").tool = .analyzer "cppcheck")
  have hn : ¬shared.HasOwn "pvs-studio" := by unfold Config.HasOwn; decide
  have hf : ((Signature.substring "V501").isMatch "a.cpp: V501" &&
      (Signature.substring "V501").appliesTo (some 13)) = true := by decide +kernel
  have ⟨labels, hl, hm⟩ := hs (.inr hn) rfl [extra "V501"] (extra "V501") (.substring "V501")
    (by decide) (by decide) (.substring rfl rfl) (Classifier.finds_iff.mp hf)
  have ⟨table', h', he⟩ := ho (by decide) (by unfold Config.HasOwn; decide)
  exact ⟨table, labels, table', h, hl, hm, h', he⟩

-- An analyzer that has signatures of its own does not see the shared ones.
theorem shared_signature_missed :
    ∃ table, shared.signatureTable = .ok table ∧
      ("static-analyzer", [extra "V501"]) ∈ shared.extraSignatures.entries ∧
      (extra "V501").Makes (.substring "V501") ∧
      Classifier.Finds ⟨table, some 13⟩ (runOf "clang-tidy" "a.cpp: V501") (.substring "V501") ∧
      (runOf "clang-tidy" "a.cpp: V501").timedOut = false ∧
      Classifier.classify ⟨table, some 13⟩ (runOf "clang-tidy" "a.cpp: V501") = .clean := by
  refine ⟨_, rfl, ?_, .substring rfl rfl, Classifier.finds_iff.mp ?_, rfl, ?_⟩
  all_goals decide +kernel

end Sample
end CourseAudit
