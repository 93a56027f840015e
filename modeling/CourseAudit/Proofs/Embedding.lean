import CourseAudit.Proofs.Diagnostics

/-!
Output around an output. It cannot hide what the usual signatures find, as long as the output begins
a line of its own. Main statement: `Classifier.classify_within`.
-/
namespace CourseAudit

namespace Diagnostic

theorem reports_append {front output : List Char} (behind : List Char)
    (hf : Text.StartsLine '\n' front) (h : reports output = true) :
    reports (front ++ output ++ behind) = true := by
  obtain ⟨before, head, rest, rfl, hb, hh⟩ := reports_iff.mp h
  refine reports_iff.mpr ⟨front ++ before, head, rest ++ behind, ?_, ?_, hh⟩
  case refine_1 => simp only [List.append_assoc]
  case refine_2 => exact Text.startsLine_append hf hb

end Diagnostic

namespace Signature

-- What the signature finds in an output it finds there whatever stands around the output.
def IsRobust (s : Signature) : Prop :=
  ∀ front output behind : String, Text.StartsLine '\n' front.toList →
    s.isMatch output = true → s.isMatch (front ++ output ++ behind) = true

theorem isRobust_substring (text : String) : (substring text).IsRobust := by
  intro front output behind _ h
  change Text.containsString text (front ++ output ++ behind) = true
  rw [Text.containsString, String.toList_append, String.toList_append]
  exact Text.contains_append front.toList behind.toList h

theorem isRobust_analyzerReport : analyzerReport.IsRobust := by
  intro front output behind hf h
  change Diagnostic.reports (front ++ output ++ behind).toList = true
  rw [String.toList_append, String.toList_append]
  exact Diagnostic.reports_append behind.toList hf h

end Signature

namespace SignatureTable

-- The usual signatures are texts to look for and reports.
theorem isRobust_of_mem_builtin {entry : String × List Signature} (he : entry ∈ builtin)
    {s : Signature} (hs : s ∈ entry.2) : s.IsRobust := by
  have ht {texts : List String} (h : s ∈ texts.map .substring) : s.IsRobust := by
    obtain ⟨text, _, rfl⟩ := List.mem_map.mp h
    exact Signature.isRobust_substring text
  have hr (h : s ∈ [Signature.analyzerReport]) : s.IsRobust :=
    List.mem_singleton.mp h ▸ Signature.isRobust_analyzerReport
  simp only [builtin, List.mem_cons, List.not_mem_nil, or_false] at he
  rcases he with rfl | rfl | rfl | rfl | rfl | rfl | rfl
  exacts [ht hs, ht hs, ht hs, ht hs, hr hs, hr hs, hr hs]

theorem mem_entries_of_find? {t : SignatureTable} {key : String} {signatures : List Signature}
    (h : t.find? key = some signatures) : (key, signatures) ∈ t.entries := by
  rw [find?] at h
  generalize t.entries = entries at h ⊢
  induction entries
  case nil => cases h
  case cons entry entries hi =>
    rw [find?In] at h
    split at h
    case isTrue hk =>
      cases h
      exact hk ▸ List.mem_cons_self
    case isFalse => exact List.mem_cons_of_mem _ (hi h)

-- The signatures of a tool are those of some key, if it has any.
theorem exists_entry_of_mem_signaturesFor {t : SignatureTable} {tool : Tool} {s : Signature}
    (h : s ∈ t.signaturesFor tool) : ∃ entry ∈ t.entries, s ∈ entry.2 := by
  have ⟨key, signatures, hf, hs⟩ : ∃ key signatures, t.find? key = some signatures ∧
      s ∈ signatures := by
    rw [signaturesFor.eq_def] at h
    split at h
    case h_1 signatures hf => exact ⟨_, signatures, hf, h⟩
    case h_2 =>
      split at h
      case h_1 =>
        cases hf : t.find? analyzerKey <;> rw [hf] at h
        case none => cases h
        case some signatures => exact ⟨_, signatures, hf, h⟩
      case h_2 => cases h
  exact ⟨_, mem_entries_of_find? hf, hs⟩

end SignatureTable

namespace Classifier

variable {c : Classifier} {run run' : ToolRun} {labels labels' : List String}

theorem Labels.sublist {signatures : List Signature}
    (hs : ∀ s ∈ signatures, c.Finds run s → c.Finds run' s) (h : c.Labels run signatures labels)
    (h' : c.Labels run' signatures labels') : labels.Sublist labels' := by
  induction h generalizing labels'
  case nil => exact List.nil_sublist _
  case found hf _ hi =>
    have ⟨hf', hs⟩ := List.forall_mem_cons.mp hs
    cases h'
    case found h' => exact (hi hs h').cons_cons _
    case missed hn _ => exact (hn (hf' hf)).elim
  case missed hi =>
    have ⟨_, hs⟩ := List.forall_mem_cons.mp hs
    cases h'
    case found h' => exact (hi hs h').cons _
    case missed h' => exact hi hs h'

-- A run that shows all that another run of the tool shows has its labels too.
theorem exists_defect_of_finds_of_finds (ht : run'.tool = run.tool) (hto : run'.timedOut = false)
    (hs : ∀ s ∈ c.table.signaturesFor run.tool, c.Finds run s → c.Finds run' s)
    (hd : c.classify run = .defect labels) :
    ∃ labels', c.classify run' = .defect labels' ∧ labels.Sublist labels' := by
  have hr := c.classify_reading run
  have hr' := c.classify_reading run'
  have ⟨_, hc, s, hm, hf⟩ := hr.exists_eq_defect_iff.mp ⟨labels, hd⟩
  have ⟨labels', hd'⟩ :=
    hr'.exists_eq_defect_iff.mpr ⟨hto, ht ▸ hc, s, ht ▸ hm, hs s hm hf⟩
  rw [hd] at hr
  rw [hd'] at hr'
  exact ⟨labels', hd', hr.labels_of_defect.sublist hs (ht ▸ hr'.labels_of_defect)⟩

-- Whatever is put around an output, and whatever the exit codes are.
theorem classify_within (major : Option UInt32) {front behind : String}
    (hd : classify ⟨.standard, major⟩ run = .defect labels) (ht : run'.tool = run.tool)
    (hto : run'.timedOut = false) (ho : run'.output = front ++ run.output ++ behind)
    (hf : front = "" ∨ ∃ lines, front = lines ++ "\n") :
    ∃ labels', classify ⟨.standard, major⟩ run' = .defect labels' ∧ labels.Sublist labels' := by
  have hl : Text.StartsLine '\n' front.toList := by
    rcases hf with rfl | ⟨lines, rfl⟩
    case inl => exact .inl rfl
    case inr => exact .inr (by rw [String.toList_append]; exact List.getLast?_concat)
  refine exists_defect_of_finds_of_finds ht hto (fun s hs hs' => ⟨hs'.allowed, ?_⟩) hd
  have ⟨entry, he, hm⟩ := SignatureTable.exists_entry_of_mem_signaturesFor hs
  exact ho ▸ SignatureTable.isRobust_of_mem_builtin he hm _ _ _ hl hs'.shown

end Classifier

namespace Sample

def race : ToolRun :=
  ⟨.threadSanitizer, "tsan", some 66, "WARNING: ThreadSanitizer: data race", false⟩

-- The same report in a longer log, of a run that ended well.
def loggedRace : ToolRun :=
  ⟨.threadSanitizer, "tsan", some 0, "start\nWARNING: ThreadSanitizer: data race!", false⟩

theorem race_found_in_log :
    ∃ labels, Classifier.classify ⟨.standard, some 13⟩ loggedRace = .defect labels ∧
      ["WARNING: ThreadSanitizer", "data race"].Sublist labels := by
  have hd : Classifier.classify ⟨.standard, some 13⟩ race =
      .defect ["WARNING: ThreadSanitizer", "data race"] := by decide +kernel
  have ho : loggedRace.output = "start\n" ++ race.output ++ "!" := by decide +kernel
  exact Classifier.classify_within (some 13) hd rfl rfl ho (.inr ⟨"start", by decide +kernel⟩)

end Sample
end CourseAudit
