import CourseAudit.Config.Basic
import CourseAudit.Verdict

/-!
Adding signatures to a configuration. What was recognised before is still recognised, unless it was
recognised only because an analyzer had no signatures of its own. Main statement:
`Config.classify_of_grows`.
-/
namespace CourseAudit

namespace SignatureTable

theorem isSome_find?_register (t : SignatureTable) (key other : String) (signatures) :
    ((t.register key signatures).find? other).isSome ↔ (t.find? other).isSome ∨ other = key := by
  rw [find?_register]
  split
  case isTrue h => simp [h]
  case isFalse h => simp [Ne.symm h]

theorem isSome_find?_registerAll (t : SignatureTable) (lists) (key : String) :
    ((t.registerAll lists).find? key).isSome ↔ (t.find? key).isSome ∨ key ∈ lists.map (·.1) := by
  induction lists generalizing t
  case nil => simp [registerAll]
  case cons list lists hi =>
    rw [registerAll, List.foldl_cons, ← registerAll, hi, isSome_find?_register, List.map_cons,
      List.mem_cons, or_assoc]

theorem isSome_find?_standard (key : String) :
    (standard.find? key).isSome ↔ key ∈ builtin.map (·.1) := by
  rw [standard, withBuiltin, isSome_find?_registerAll]
  exact or_iff_right nofun

-- Where the signatures for a tool come from.
theorem signaturesFor_of_some {t : SignatureTable} {tool : Tool} {signatures : List Signature}
    (h : t.find? tool.shortName = some signatures) : t.signaturesFor tool = signatures := by
  unfold signaturesFor
  rw [h]

theorem signaturesFor_analyzer_of_none {t : SignatureTable} {name : String}
    (h : t.find? name = none) :
    t.signaturesFor (.analyzer name) = (t.find? analyzerKey).getD [] := by
  unfold signaturesFor
  rw [Tool.shortName, h]

theorem signaturesFor_of_none {t : SignatureTable} {tool : Tool} (h : t.find? tool.shortName = none)
    (ht : ∀ name, tool ≠ .analyzer name) : t.signaturesFor tool = [] := by
  unfold signaturesFor
  rw [h]
  cases tool
  case analyzer name => exact (ht name rfl).elim
  all_goals rfl

-- Every list of the first table is found in the second one, perhaps with signatures added to it.
def Covers (t t' : SignatureTable) : Prop :=
  ∀ key signatures, t.find? key = some signatures →
    ∃ signatures', t'.find? key = some signatures' ∧ signatures.Sublist signatures'

namespace Covers

theorem refl (t : SignatureTable) : t.Covers t :=
  fun _ signatures h => ⟨signatures, h, .refl _⟩

variable {t t' : SignatureTable} {old more : List Signature}

theorem getD (h : t.Covers t') (key : String) :
    ((t.find? key).getD []).Sublist ((t'.find? key).getD []) := by
  cases hk : t.find? key
  case none => exact List.nil_sublist _
  case some signatures =>
    have ⟨_, hk', hs⟩ := h key signatures hk
    rwa [hk']

-- Both tables get the same signatures, and the second one perhaps some more of the same key.
theorem register (h : t.Covers t') (key : String) (hs : old.Sublist more) :
    (t.register key old).Covers (t'.register key more) := by
  intro other signatures ho
  rw [find?_register] at ho ⊢
  split at ho
  case isTrue hk =>
    cases ho
    rw [if_pos hk]
    exact ⟨_, rfl, (h.getD other).append hs⟩
  case isFalse hk =>
    rw [if_neg hk]
    exact h other signatures ho

theorem register_right (h : t.Covers t') (key : String) : t.Covers (t'.register key more) := by
  intro other signatures ho
  have ⟨signatures', ho', hs⟩ := h other signatures ho
  rw [find?_register]
  split
  case isTrue => exact ⟨_, rfl, ho' ▸ hs.trans (List.sublist_append_left ..)⟩
  case isFalse => exact ⟨signatures', ho', hs⟩

-- An analyzer that has signatures of its own now had some before, so none is hidden from it.
theorem signaturesFor (h : t.Covers t') {tool : Tool}
    (ho : ∀ name, tool = .analyzer name → (t'.find? name).isSome → (t.find? name).isSome) :
    (t.signaturesFor tool).Sublist (t'.signaturesFor tool) := by
  cases hk : t.find? tool.shortName
  case some signatures =>
    have ⟨_, hk', hs⟩ := h _ signatures hk
    rwa [signaturesFor_of_some hk, signaturesFor_of_some hk']
  case none =>
    cases tool
    case analyzer name =>
      rw [Tool.shortName] at hk
      have hk' : t'.find? name = none := by
        rw [← Option.not_isSome_iff_eq_none] at hk ⊢
        exact fun hs => hk <| ho name rfl hs
      rw [signaturesFor_analyzer_of_none hk, signaturesFor_analyzer_of_none hk']
      exact h.getD analyzerKey
    all_goals
      rw [signaturesFor_of_none hk nofun]
      exact List.nil_sublist _

end Covers
end SignatureTable

namespace ExtraSignature

-- The entry makes a signature.
def IsValid (e : ExtraSignature) : Prop :=
  ∃ s, e.signature = .ok s

theorem signatures_of_isValid {extras : List ExtraSignature} (h : ∀ e ∈ extras, e.IsValid) :
    ∃ signatures, ExtraSignature.signatures extras = .ok signatures := by
  induction extras
  case nil => exact ⟨[], rfl⟩
  case cons e extras hi =>
    have ⟨⟨s, he⟩, hr⟩ := List.forall_mem_cons.mp h
    have ⟨signatures, hs⟩ := hi hr
    exact ⟨s :: signatures, by rw [ExtraSignature.signatures, he, hs]; rfl⟩

theorem signatures_append {extras more : List ExtraSignature}
    (h : ExtraSignature.signatures extras = .ok s) (hm : ExtraSignature.signatures more = .ok s') :
    ExtraSignature.signatures (extras ++ more) = .ok (s ++ s') := by
  induction extras generalizing s
  case nil => cases h; exact hm
  case cons e extras hi =>
    rw [ExtraSignature.signatures] at h
    cases he : e.signature <;> rw [he] at h
    case error => cases h
    case ok first =>
      cases hr : ExtraSignature.signatures extras <;> rw [hr] at h
      case error => cases h
      case ok rest =>
        cases h
        rw [List.cons_append, ExtraSignature.signatures, he, hi hr]
        rfl

end ExtraSignature

namespace Config

abbrev Extras := List (String × List ExtraSignature)

-- Valid signatures are added: to the list of a key that is there already, or under a new key.
inductive Grows : Extras → Extras → Prop
  | nil : Grows [] []
  | append {extras extras' : Extras} (key : String) (signatures more : List ExtraSignature) :
    (∀ e ∈ more, e.IsValid) → Grows extras extras' →
    Grows ((key, signatures) :: extras) ((key, signatures ++ more) :: extras')
  | insert {extras extras' : Extras} (key : String) (more : List ExtraSignature) :
    (∀ e ∈ more, e.IsValid) → Grows extras extras' → Grows extras ((key, more) :: extras')

theorem addExtras_of_grows {extras extras' : Extras} {t t' u : SignatureTable}
    (hg : Grows extras extras') (hc : t.Covers t') (h : addExtras t extras = .ok u) :
    ∃ u', addExtras t' extras' = .ok u' ∧ u.Covers u' := by
  induction hg generalizing t t'
  case nil => cases h; exact ⟨t', rfl, hc⟩
  case append key signatures more hv _ hi =>
    have ⟨added, ha⟩ := ExtraSignature.signatures_of_isValid hv
    rw [addExtras] at h
    cases hs : ExtraSignature.signatures signatures <;> rw [hs] at h
    case error => cases h
    case ok old =>
      rw [addExtras, ExtraSignature.signatures_append hs ha]
      exact hi (hc.register key (List.sublist_append_left old added)) h
  case insert key more hv _ hi =>
    have ⟨added, ha⟩ := ExtraSignature.signatures_of_isValid hv
    rw [addExtras, ha]
    exact hi (hc.register_right key) h

theorem isSome_find?_addExtras {extras : Extras} {t u : SignatureTable}
    (h : addExtras t extras = .ok u) (key : String) :
    (u.find? key).isSome ↔ (t.find? key).isSome ∨ key ∈ extras.map (·.1) := by
  induction extras generalizing t
  case nil => cases h; simp
  case cons entry extras hi =>
    rw [addExtras] at h
    cases hs : ExtraSignature.signatures entry.2 <;> rw [hs] at h
    case error => cases h
    case ok signatures =>
      rw [hi h, SignatureTable.isSome_find?_register, List.map_cons, List.mem_cons, or_assoc]

-- The analyzer has signatures of its own, so it does not use those that all analyzers share.
def HasOwn (c : Config) (name : String) : Prop :=
  name ∈ SignatureTable.builtin.map (·.1) ∨ name ∈ c.extraSignatures.map (·.1)

theorem isSome_find?_iff {c : Config} {table : SignatureTable} (h : c.signatureTable = .ok table)
    (name : String) : (table.find? name).isSome ↔ c.HasOwn name := by
  rw [isSome_find?_addExtras h, SignatureTable.isSome_find?_standard, HasOwn, SortedMap.map]

end Config

namespace Classifier

-- The labels of the signatures that are found in the output of a run.
def labels (c : Classifier) (run : ToolRun) : List String :=
  matchedLabels (c.applicable run.tool) run.output

theorem labels_sublist {table table' : SignatureTable} {run : ToolRun}
    (h : (table.signaturesFor run.tool).Sublist (table'.signaturesFor run.tool))
    (major : Option UInt32) : (labels ⟨table, major⟩ run).Sublist (labels ⟨table', major⟩ run) :=
  ((h.filter _).filter _).map _

theorem withoutDiagnostic_ne_defect {code : Option Int} {found : List String} :
    withoutDiagnostic code ≠ .defect found := by
  rw [withoutDiagnostic.eq_def]
  split <;> nofun

-- A run of a tool that is not the compiler and that was not cut off is read by its labels alone.
theorem classify_eq_defect_iff {c : Classifier} {run : ToolRun} {found : List String}
    (h : run.tool ≠ .compiler) :
    c.classify run = .defect found ↔
      run.timedOut = false ∧ c.labels run = found ∧ found ≠ [] := by
  cases ht : run.timedOut
  case true => simp [classify, ht]
  case false =>
    simp only [classify, labels, ht, h, Bool.false_eq_true, if_false, true_and]
    rcases matchedLabels (c.applicable run.tool) run.output with _ | ⟨label, rest⟩
    case nil =>
      constructor
      case mp => exact fun hd => (withoutDiagnostic_ne_defect hd).elim
      case mpr => rintro ⟨rfl, hne⟩; exact (hne rfl).elim
    case cons =>
      constructor
      case mp => rintro ⟨⟩; exact ⟨rfl, nofun⟩
      case mpr => rintro ⟨rfl, -⟩; rfl

end Classifier

namespace Config

theorem classify_of_grows {c : Config} {table : SignatureTable}
    {extras : SortedMap (List ExtraSignature)} (h : c.signatureTable = .ok table)
    (hg : Grows c.extraSignatures.entries extras.entries) :
    let c' := { c with extraSignatures := extras }
    ∃ table', c'.signatureTable = .ok table' ∧ ∀ (major : Option UInt32) (run : ToolRun),
      run.tool ≠ .compiler → (∀ name, run.tool = .analyzer name → c'.HasOwn name → c.HasOwn name) →
      (Classifier.labels ⟨table, major⟩ run).Sublist (Classifier.labels ⟨table', major⟩ run) ∧
      ∀ found, Classifier.classify ⟨table, major⟩ run = .defect found →
        ∃ found', Classifier.classify ⟨table', major⟩ run = .defect found' ∧
          found.Sublist found' := by
  intro c'
  have ⟨table', h', hc⟩ := addExtras_of_grows hg (.refl .standard) h
  refine ⟨table', h', fun major run ht ho => ?_⟩
  have hs : (table.signaturesFor run.tool).Sublist (table'.signaturesFor run.tool) := by
    refine hc.signaturesFor fun name hn hk => ?_
    rw [isSome_find?_iff h]
    exact ho name hn <| (isSome_find?_iff (c := c') h' name).mp hk
  have hl := Classifier.labels_sublist hs major
  refine ⟨hl, fun found hf => ?_⟩
  have ⟨hto, hfl, hne⟩ := (Classifier.classify_eq_defect_iff ht).mp hf
  refine ⟨_, (Classifier.classify_eq_defect_iff ht).mpr ⟨hto, rfl, ?_⟩, hfl ▸ hl⟩
  rintro hnil
  rw [hnil, List.sublist_nil] at hl
  exact hne (hfl ▸ hl)

end Config

namespace Sample

-- A finished run of an analyzer.
def runOf (analyzer output : String) : ToolRun :=
  ⟨.analyzer analyzer, analyzer, some 0, output, false⟩

def extra (substring : String) : ExtraSignature :=
  ⟨none, some substring, none, none, none⟩

def withExtras (extras : SortedMap (List ExtraSignature)) : Config :=
  { Config.standard with extraSignatures := extras }

-- One key with one signature.
def extraUnder (key substring : String) : SortedMap (List ExtraSignature) :=
  ⟨[(key, [extra substring])], List.pairwise_singleton ..⟩

theorem classify_of_grown_cppcheck :
    Config.Grows Config.standard.extraSignatures.entries
      (extraUnder "cppcheck" "nullPointer").entries ∧
    (withExtras (extraUnder "cppcheck" "nullPointer")).HasOwn "cppcheck" ∧
    Config.standard.HasOwn "cppcheck" ∧
    ∃ table table' found, Config.standard.signatureTable = .ok table ∧
      (withExtras (extraUnder "cppcheck" "nullPointer")).signatureTable = .ok table' ∧
      Classifier.classify ⟨table', some 13⟩ (runOf "cppcheck" "a.cpp:7:1: error: nullPointer") =
        .defect found ∧ ["diagnostic"].Sublist found := by
  have hg : Config.Grows Config.standard.extraSignatures.entries
      (extraUnder "cppcheck" "nullPointer").entries :=
    .insert _ _ (List.forall_mem_singleton.mpr ⟨_, rfl⟩) .nil
  have hd : "cppcheck" ∈ SignatureTable.builtin.map (·.1) := by decide
  have ⟨table', h', hc⟩ := Config.classify_of_grows rfl hg
  have ⟨_, hf⟩ := hc (some 13) (runOf "cppcheck" "a.cpp:7:1: error: nullPointer") nofun
    fun name hn _ => by cases hn; exact .inl hd
  have ⟨found, hf', hs⟩ := hf ["diagnostic"] (by decide +kernel)
  exact ⟨hg, .inl hd, .inl hd, _, table', found, rfl, h', hf', hs⟩

-- The first signatures of an analyzer take the place of those that all analyzers share.
theorem first_signatures_hide_report :
    Config.Grows Config.standard.extraSignatures.entries
      (extraUnder "pvs-studio" "V501").entries ∧
    ∃ table table', Config.standard.signatureTable = .ok table ∧
      (withExtras (extraUnder "pvs-studio" "V501")).signatureTable = .ok table' ∧
      (let run := runOf "pvs-studio" "a.cpp:1:1: warning: x"
       run.tool ≠ .compiler ∧
       ¬(Classifier.labels ⟨table, none⟩ run).Sublist (Classifier.labels ⟨table', none⟩ run) ∧
       Classifier.classify ⟨table, none⟩ run = .defect ["diagnostic"] ∧
       Classifier.classify ⟨table', none⟩ run = .clean) := by
  refine ⟨.insert _ _ ?_ .nil, _, _, rfl, rfl, ?_, ?_, ?_, ?_⟩
  case refine_1 => exact List.forall_mem_singleton.mpr ⟨_, rfl⟩
  all_goals decide +kernel

end Sample
end CourseAudit
