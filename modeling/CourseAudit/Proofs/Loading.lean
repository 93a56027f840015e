import CourseAudit.CommandLine.Run
import CourseAudit.Proofs.Extras

/-!
A configuration that was read makes a table of signatures, whatever the arguments of a command
change in it. Main statement: `Config.signatureTable_extends`.
-/
namespace CourseAudit
namespace Config

variable {c : Config} {files : FileTree}

theorem exists_signatureTable_of_ofText {text : String} (h : ofText text = .ok c) :
    ∃ table, c.signatureTable = .ok table := by
  rw [ofText] at h
  split at h
  case h_1 => cases h
  case h_2 =>
    split at h
    case h_1 table ht =>
      cases h
      exact ⟨table, ht⟩
    case h_2 => cases h

theorem exists_signatureTable_of_load {path : Path} (h : load files path = .ok c) :
    ∃ table, c.signatureTable = .ok table := by
  simp only [load] at h
  split at h
  case h_1 read hr =>
    cases h
    split at hr
    case h_1 bytes _ =>
      rw [ofBytes] at hr
      split at hr
      case h_1 => cases hr
      case h_2 => exact exists_signatureTable_of_ofText hr
    case h_2 => cases hr
  case h_2 => cases h

theorem exists_signatureTable_standard : ∃ table, standard.signatureTable = .ok table :=
  ⟨_, rfl⟩

theorem exists_signatureTable_of_loadForRoot {root : Path} {given : Option Path}
    (h : loadForRoot files root given = .ok c) : ∃ table, c.signatureTable = .ok table := by
  cases given
  case some => exact exists_signatureTable_of_load h
  case none =>
    simp only [loadForRoot] at h
    split at h
    case isTrue => exact exists_signatureTable_of_load h
    case isFalse =>
      cases h
      exact exists_signatureTable_standard

end Config

namespace CommandLine

variable {files : FileTree} {root : Path} {config : Config}

theorem Common.exists_signatureTable {command : Common}
    (h : command.loadConfig files root = .ok config) :
    ∃ table, config.signatureTable = .ok table := by
  rw [loadConfig] at h
  cases hl : Config.loadForRoot files root command.config <;> rw [hl] at h
  case error => cases h
  case ok read =>
    cases h
    have ⟨table, ht⟩ := Config.exists_signatureTable_of_loadForRoot hl
    exact ⟨table, ht⟩

theorem exists_auditor? (h : ∃ table, config.signatureTable = .ok table) :
    ∃ auditor, auditor? config = some auditor := by
  obtain ⟨table, ht⟩ := h
  exact ⟨_, by rw [auditor?, ht]⟩

end CommandLine

namespace Config

open SignatureTable (build)
open CommandLine (Common PatternCommand CourseCommand auditor?)

-- Every key has what is built in and behind it what the course adds, and a course whose
-- configuration was read never lacks a table.
theorem signatureTable_extends :
    (∀ c : Config,
      ((∃ table, c.signatureTable = .ok table) ↔
        ∀ entry ∈ c.extraSignatures.entries, ∀ e ∈ entry.2, e.IsWellFormed) ∧
      (∀ table, c.signatureTable = .ok table → c.Provides table) ∧
      ∀ f, c.signatureTable = .error f → ∃ reason, c.Refuses f.key reason ∧
        f.message = "extra_signatures." ++ f.key ++ ": " ++ reason) ∧
    (∀ steps key signatures, (build steps).find? key = some signatures ↔
      (∃ s ∈ steps, s.Names key) ∧ steps.flatMap (SignatureTable.Step.under key) = signatures) ∧
    (∀ before after (a b : SignatureTable.Step), a.Apart b →
      let t := build (before ++ a :: b :: after)
      let t' := build (before ++ b :: a :: after)
      t.Agrees t' ∧ t.keys = t'.keys ∧ ∀ tool, t.signaturesFor tool = t'.signaturesFor tool) ∧
    (∀ files path c, load files path = .ok c → ∃ table, c.signatureTable = .ok table ∧
      (∀ command : Common, (command.apply c).signatureTable = .ok table) ∧
      ∀ command : CourseCommand, (command.apply c).signatureTable = .ok table) ∧
    ∀ files root config,
      (∀ command : PatternCommand, command.common.loadConfig files root = .ok config →
        ∃ auditor, auditor? config = some auditor) ∧
      ∀ command : CourseCommand, command.common.loadConfig files root = .ok config →
        ∃ auditor, auditor? (command.apply config) = some auditor := by
  refine ⟨fun c => ⟨exists_signatureTable_iff, fun _ => provides, fun f hf => ⟨_, refuses hf⟩⟩,
    fun _ _ _ => SignatureTable.find?_build_eq_some_iff, ?_, ?_, fun files root config => ⟨?_, ?_⟩⟩
  case refine_1 =>
    intro before after a b h t t'
    have hg : t.Agrees t' := SignatureTable.agrees_of_apart h
    exact ⟨hg, hg.keys_eq, hg.signaturesFor_eq⟩
  case refine_2 =>
    intro files path c h
    have ⟨table, ht⟩ := exists_signatureTable_of_load h
    exact ⟨table, ht, fun _ => ht, fun _ => ht⟩
  case refine_3 =>
    intro command h
    exact CommandLine.exists_auditor? (command.common.exists_signatureTable h)
  case refine_4 =>
    intro command h
    have ⟨table, ht⟩ := command.common.exists_signatureTable h
    exact CommandLine.exists_auditor? ⟨table, ht⟩

end Config

namespace Sample

def extended : Config :=
  withExtras ⟨[("asan", [extra "container-overflow"]), ("pvs-studio", [extra "V501"])],
    by decide⟩

-- Entries are refused under two keys, and the smaller key is named.
def spoiled : Config :=
  withExtras ⟨[("asan", [extra "container-overflow"]),
    ("tsan", [extra "deadlock", ⟨none, none, none, none, none⟩]),
    ("ubsan", [⟨none, some "a", some "b", none, none⟩])], by decide⟩

def tuned : FileTree where
  root := .directory [("tuned.json5", .file (Text.Utf8.encodeString
    "\x7b\"extra_signatures\": \x7b\"asan\": [\x7b\"substring\": \"leak\"\x7d]\x7d\x7d") false)]
  cwd := []

def tunedConfig : Path := ⟨"/tuned.json5"⟩

theorem load_tuned : ∃ c, Config.load tuned tunedConfig = .ok c := by
  have h : (Config.load tuned tunedConfig).isOk = true := by decide +kernel
  cases hl : Config.load tuned tunedConfig <;> rw [hl] at h
  case error => cases h
  case ok c => exact ⟨c, rfl⟩

def strictCommand : CommandLine.CourseCommand :=
  ⟨none, none, false, ⟨true, none, some tunedConfig, some "clang++", false⟩⟩

theorem loadConfig_tuned :
    ∃ config, strictCommand.common.loadConfig tuned ⟨"/"⟩ = .ok config := by
  have ⟨c, hl⟩ := load_tuned
  have hr : Config.loadForRoot tuned ⟨"/"⟩ (some tunedConfig) = .ok c := hl
  exact ⟨strictCommand.common.apply c, congrArg (Except.map strictCommand.common.apply) hr⟩

-- Signatures of an analyzer for which nothing is built in.
def analyzerStep : SignatureTable.Step :=
  .register "pvs-studio" [.substring "V501"]

theorem analyzerStep_apart : analyzerStep.Apart .builtin := by
  intro key hk
  obtain rfl : key = "pvs-studio" := List.mem_singleton.mp hk
  change "pvs-studio" ∉ SignatureTable.builtin.map (·.1)
  decide

theorem tables_of_configurations :
    (∃ table, extended.signatureTable = .ok table ∧ extended.Provides table) ∧
    (∃ reason, spoiled.Refuses "tsan" reason ∧ "extra_signatures.tsan: " ++ reason =
      "extra_signatures.tsan: one of `substring` or `regex` is required") ∧
    (SignatureTable.build [analyzerStep, .builtin]).find? "pvs-studio" =
      some [.substring "V501"] ∧
    (SignatureTable.build [analyzerStep, .builtin]).keys =
      (SignatureTable.build [.builtin, analyzerStep]).keys ∧
    (∃ c table, Config.load tuned tunedConfig = .ok c ∧ c.signatureTable = .ok table ∧
      (strictCommand.apply c).signatureTable = .ok table) ∧
    ∃ config auditor, strictCommand.common.loadConfig tuned ⟨"/"⟩ = .ok config ∧
      CommandLine.auditor? (strictCommand.apply config) = some auditor := by
  have ⟨hc, hb, hs, hl, ha⟩ := Config.signatureTable_extends
  have ⟨_, hp, _⟩ := hc extended
  have ⟨table, ht⟩ : ∃ table, extended.signatureTable = .ok table := ⟨_, rfl⟩
  have ⟨_, _, hr⟩ := hc spoiled
  have ⟨reason, hr, hm⟩ := hr ⟨"tsan", .neither⟩ rfl
  have ⟨_, hk, _⟩ := hs [] [] analyzerStep .builtin analyzerStep_apart
  have ⟨c, hcl⟩ := load_tuned
  have ⟨table', ht', _, hv⟩ := hl tuned tunedConfig c hcl
  have ⟨config, hcc⟩ := loadConfig_tuned
  have ⟨auditor, ha⟩ := (ha tuned ⟨"/"⟩ config).2 strictCommand hcc
  refine ⟨⟨table, ht, hp table ht⟩, ⟨reason, hr, hm.symm⟩, (hb ..).mpr ⟨?_, rfl⟩, hk,
    ⟨c, table', hcl, ht', hv strictCommand⟩, config, auditor, hcc, ha⟩
  exact ⟨analyzerStep, List.mem_cons_self, List.mem_singleton_self _⟩

end Sample
end CourseAudit
