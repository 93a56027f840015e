import CourseAudit.Proofs.Additivity
import CourseAudit.Proofs.Denotation
import CourseAudit.Proofs.Lines
import CourseAudit.Proofs.Readings

/-!
The lines by which analyzers report. A line is a report by the shape of its beginning, and the
pattern for reports finds just those. Main statements: `isReport_iff`,
`isMatch_expression_iff` and `Classifier.classify_analyzer`.
-/
namespace CourseAudit

namespace Text

theorem dropWhile_eq_cons_iff {p : Char → Bool} {text rest : List Char} {c : Char} :
    text.dropWhile p = c :: rest ↔
      ∃ run, (∀ c ∈ run, p c = true) ∧ p c = false ∧ text = run ++ c :: rest := by
  constructor
  case mp =>
    intro h
    have hc := List.head?_dropWhile_not p text
    rw [h] at hc
    refine ⟨text.takeWhile p, fun _ => List.mem_takeWhile_imp, hc, ?_⟩
    rw [← h, List.takeWhile_append_dropWhile]
  case mpr =>
    rintro ⟨run, hr, hc, rfl⟩
    rw [List.dropWhile_append_of_pos hr, List.dropWhile_cons_of_neg (by simpa using hc)]

end Text

namespace Diagnostic

open Regex Unicode
open RangeTable (last)

/-! ### Shape -/

-- What is taken for the name of a file.
structure IsFile (text : List Char) : Prop where
  starts  : ∃ c, text.head? = some c ∧ Text.isBlank c = false
  noColon : ':' ∉ text

structure IsNumber (text : List Char) : Prop where
  nonempty : text ≠ []
  digits   : ∀ c ∈ text, isDigit c = true

-- A file and a line, perhaps with a column, and a colon behind each.
inductive IsPlace : List Char → Prop
  | line {file number : List Char} :
    IsFile file → IsNumber number → IsPlace (file ++ [':'] ++ number ++ [':'])
  | column {file number column : List Char} :
    IsFile file → IsNumber number → IsNumber column →
    IsPlace (file ++ [':'] ++ number ++ [':'] ++ column ++ [':'])

-- The beginning of a report: a place, a blank, a severity, and a colon.
inductive IsHead : List Char → Prop
  | intro {place severity : List Char} :
    IsPlace place → severity ∈ severities → IsHead (place ++ [' '] ++ severity ++ [':'])

-- What follows in the line does not matter.
def Reports (line : List Char) : Prop :=
  ∃ head, IsHead head ∧ head <+: line

variable {text rest line front piece : List Char}

theorem afterNumber?_eq_some_iff :
    afterNumber? text = some rest ↔ ∃ number, IsNumber number ∧ text = number ++ ':' :: rest := by
  have hd : isDigit ':' = false := by decide
  rw [afterNumber?]
  constructor
  case mp =>
    intro h
    split at h
    case isFalse => cases h
    case isTrue hh =>
      split at h
      case h_2 => cases h
      case h_1 after he =>
        cases h
        obtain ⟨number, hn, _, rfl⟩ := Text.dropWhile_eq_cons_iff.mp he
        refine ⟨number, ⟨?_, hn⟩, rfl⟩
        rintro rfl
        rw [List.nil_append, List.head?_cons, Option.any_some, hd] at hh
        cases hh
  case mpr =>
    rintro ⟨number, hn, rfl⟩
    obtain ⟨c, more, rfl⟩ := List.exists_cons_of_ne_nil hn.nonempty
    rw [Text.dropWhile_eq_cons_iff.mpr ⟨_, hn.digits, hd, rfl⟩]
    exact if_pos (hn.digits c List.mem_cons_self)

theorem afterFile?_eq_some_iff :
    afterFile? line = some rest ↔ ∃ file, IsFile file ∧ line = file ++ ':' :: rest := by
  constructor
  case mp =>
    intro h
    rw [afterFile?.eq_def] at h
    split at h
    case h_1 => cases h
    case h_2 c behind =>
      split at h
      case isTrue => cases h
      case isFalse hc =>
        split at h
        case h_2 => cases h
        case h_1 after he =>
          cases h
          obtain ⟨file, hf, _, hl⟩ := Text.dropWhile_eq_cons_iff.mp he
          refine ⟨file, ⟨?_, fun hm => by simpa using hf _ hm⟩, hl⟩
          cases file
          case nil => simp_all
          case cons d file => exact ⟨c, by simp_all⟩
  case mpr =>
    rintro ⟨file, hf, rfl⟩
    obtain ⟨c, hh, hb⟩ := hf.starts
    obtain ⟨more, rfl⟩ := List.head?_eq_some_iff.mp hh
    have hc : c ≠ ':' := fun hc => hf.noColon (hc ▸ List.mem_cons_self)
    have hd : (c :: more ++ ':' :: rest).dropWhile (· ≠ ':') = ':' :: rest :=
      Text.dropWhile_eq_cons_iff.mpr
        ⟨_, fun d hd => decide_eq_true (ne_of_mem_of_not_mem hd hf.noColon), by decide, rfl⟩
    rw [List.cons_append] at hd ⊢
    simp only [afterFile?, hd, hb, hc]
    rfl

theorem severityFollows_iff :
    severityFollows text = true ↔
      ∃ severity ∈ severities, [' '] ++ severity ++ [':'] <+: text := by
  rw [severityFollows, List.any_eq_true]
  simp only [List.isPrefixOf_iff_prefix]

theorem isReport_eq_true_iff :
    isReport line = true ↔ ∃ numbered behind,
      afterFile? line = some numbered ∧ afterNumber? numbered = some behind ∧
        (severityFollows behind = true ∨
          ∃ marked, afterNumber? behind = some marked ∧ severityFollows marked = true) := by
  rw [isReport]
  cases afterFile? line
  case none => simp
  case some numbered =>
    cases hb : afterNumber? numbered
    case none => simp [hb]
    case some behind => cases hm : afterNumber? behind <;> simp [hb, hm]

-- A line is a report if and only if it begins like one.
theorem isReport_iff : isReport line = true ↔ Reports line := by
  rw [isReport_eq_true_iff]
  constructor
  case mp =>
    rintro ⟨numbered, behind, hl, hb, h⟩
    obtain ⟨file, hf, rfl⟩ := afterFile?_eq_some_iff.mp hl
    obtain ⟨number, hn, rfl⟩ := afterNumber?_eq_some_iff.mp hb
    rcases h with h | ⟨marked, hm, h⟩
    case inl =>
      obtain ⟨severity, hs, rest, rfl⟩ := severityFollows_iff.mp h
      exact ⟨_, .intro (.line hf hn) hs, rest, by simp⟩
    case inr =>
      obtain ⟨column, hc, rfl⟩ := afterNumber?_eq_some_iff.mp hm
      obtain ⟨severity, hs, rest, rfl⟩ := severityFollows_iff.mp h
      exact ⟨_, .intro (.column hf hn hc) hs, rest, by simp⟩
  case mpr =>
    rintro ⟨_, @⟨_, severity, hp, hs⟩, rest, rfl⟩
    have hs := severityFollows_iff.mpr ⟨severity, hs, List.prefix_append _ rest⟩
    cases hp
    case line hf hn =>
      exact ⟨_, _, afterFile?_eq_some_iff.mpr ⟨_, hf, by simp; rfl⟩,
        afterNumber?_eq_some_iff.mpr ⟨_, hn, rfl⟩, .inl (by simpa using hs)⟩
    case column hf hn hc =>
      exact ⟨_, _, afterFile?_eq_some_iff.mpr ⟨_, hf, by simp; rfl⟩,
        afterNumber?_eq_some_iff.mpr ⟨_, hn, rfl⟩,
        .inr ⟨_, afterNumber?_eq_some_iff.mpr ⟨_, hc, rfl⟩, by simpa using hs⟩⟩

/-! ### Pattern -/

def pattern : String :=
  "(?m)^[^\\s:][^:\\n]*:\\d+:(?:\\d+:)? (?:warning|error|style|performance|portability):"

-- All characters but blanks and the colon.
def outside : CharSet :=
  ⟨#[(0, 8), (14, 31), (33, 57), (59, 132), (134, 159), (161, 5759), (5761, 8191), (8203, 8231),
    (8234, 8238), (8240, 8286), (8288, 12287), (12289, last)]⟩

-- All characters but the colon and the newline.
def within : CharSet :=
  ⟨#[(0, 9), (11, 57), (59, last)]⟩

def numbered : Regex :=
  .seq (digits 1 none) (.literal [':'])

-- What comes behind the file.
def marks : Regex :=
  ofParts [.literal [':'], digits 1 none, .literal [':'], .repeat numbered 0 (some 1) true,
    .literal [' '], ofBranches (severities.map .literal), .literal [':']]

def expression : Regex :=
  .seq (.look .lineStart) (.seq (.set outside) (.seq (.repeat (.set within) 0 none true) marks))

theorem compl_outside : (CharSet.blank.union (.single ':'.toNat)).compl = outside := by
  cbv

theorem compl_within :
    (RangeTable.union (.single ':'.toNat) (.single '\n'.toNat)).compl = within := by
  cbv

theorem repetition_numbered :
    repetition (Regex.concat [numbered]) 0 (some 1) true = .repeat numbered 0 (some 1) true := by
  have h : maxLength numbered = none := maxLength_seq_none maxLength_repeat_none (.literal [':'])
  refine repetition_eq (r := numbered) ?_ fun n hn => .inr (Option.some_inj.mp hn ▸ Nat.one_pos)
  rw [h]
  exact (Option.some_ne_none 0).symm

set_option maxRecDepth 20000 in
theorem denotes_expression : Denotes pattern expression := by
  apply denotes_of
  · conv => lhs; cbv
  have hw : repetition (ofSet within) 0 none true = .repeat (.set within) 0 none true :=
    repetition_set_none within
  have hn := repetition_numbered
  rw [numbered] at hn
  simp only [Except.bind, Except.map, initial_eq, Ast.meaning, ClassAst.meaning, Mode.look,
    inPattern_usual, inClass_usual, negateIf_usual, Bool.false_eq_true, if_false, if_true,
    shorthand_digit, shorthand_blank, fold_usual, ofSet_digitTable, swapGreed_usual, ok_bind,
    change_none, change_multiLine, compl_outside, compl_within, repetition_set_none,
    repeat_digitTable, hw, hn]
  rfl

theorem contains_outside {c : Char} :
    outside.contains c.toNat = true ↔ Text.isBlank c = false ∧ c ≠ ':' := by
  have := RangeTable.toNat_le_last c
  rw [RangeTable.last] at this
  rw [(RangeTable.increasing_of_isChain (by decide)).contains_iff]
  simp [outside, Text.isBlank, RangeTable.last, ← Char.toNat_inj]
  omega

theorem contains_within {c : Char} :
    within.contains c.toNat = true ↔ c ≠ ':' ∧ c ≠ '\n' := by
  have := RangeTable.toNat_le_last c
  rw [RangeTable.last] at this
  rw [(RangeTable.increasing_of_isChain (by decide)).contains_iff]
  simp [within, RangeTable.last, ← Char.toNat_inj]
  omega

theorem holds_lineStart_iff {after : Option Char} :
    Look.lineStart.holds front.getLast? after = true ↔ Text.StartsLine '\n' front := by
  simp [Look.holds, Text.StartsLine]

theorem spans_number_iff : (digits 1 none).Spans front piece rest ↔ IsNumber piece := by
  rw [spans_digits_iff, Nat.succ_le_iff, List.length_pos_iff]
  exact ⟨fun h => ⟨h.1, h.2.2⟩, fun h => ⟨h.nonempty, nofun, h.digits⟩⟩

theorem spans_numbered_iff :
    numbered.Spans front piece rest ↔ ∃ number, IsNumber number ∧ piece = number ++ [':'] := by
  simp only [numbered, spans_seq_iff, spans_number_iff, spans_literal_iff]
  grind

theorem spans_words_iff {words : List (List Char)} :
    (ofBranches (words.map .literal)).Spans front piece rest ↔ piece ∈ words := by
  induction words
  case nil =>
    have hc (n : Nat) : RangeTable.empty.contains n = false := rfl
    simp [ofBranches, spans_set_iff, hc]
  case cons word words hi =>
    cases words
    case nil => simp [ofBranches, spans_literal_iff]
    case cons next words =>
      change (Regex.alt (.literal word) (ofBranches ((next :: words).map .literal))).Spans .. ↔ _
      rw [spans_alt_iff, hi, spans_literal_iff]
      exact List.mem_cons.symm

-- A file and what comes behind it.
theorem spans_file_iff {r : Regex} :
    Regex.Spans (.seq (.set outside) (.seq (.repeat (.set within) 0 none true) r))
        front piece rest ↔
      ∃ file behind, piece = file ++ behind ∧ IsFile file ∧ '\n' ∉ file ∧
        r.Spans (front ++ file) behind rest := by
  simp only [spans_seq_iff, spans_set_iff, spans_repeat_set_iff, contains_outside, contains_within]
  constructor
  case mp =>
    rintro ⟨_, _, rfl, ⟨c, rfl, hb, hc⟩, more, behind, rfl, ⟨_, _, hm⟩, hr⟩
    refine ⟨c :: more, behind, rfl, ⟨⟨c, rfl, hb⟩, ?_⟩, ?_, by simpa using hr⟩
    case refine_1 =>
      rintro (_ | ⟨_, h⟩)
      exacts [hc rfl, (hm _ h).1 rfl]
    case refine_2 =>
      rintro (_ | ⟨_, h⟩)
      exacts [absurd hb (by decide), (hm _ h).2 rfl]
  case mpr =>
    rintro ⟨file, behind, rfl, hf, hn, hr⟩
    obtain ⟨c, hh, hb⟩ := hf.starts
    obtain ⟨more, rfl⟩ := List.head?_eq_some_iff.mp hh
    have ⟨hc, hm⟩ := not_or.mp (mt List.mem_cons.mpr hf.noColon)
    have ⟨_, hn⟩ := not_or.mp (mt List.mem_cons.mpr hn)
    refine ⟨[c], more ++ behind, rfl, ⟨c, rfl, hb, Ne.symm hc⟩, more, behind, rfl, ?_, ?_⟩
    case refine_2 => simpa using hr
    exact ⟨Nat.zero_le _, nofun, fun d hd =>
      ⟨ne_of_mem_of_not_mem hd hm, ne_of_mem_of_not_mem hd hn⟩⟩

theorem IsNumber.newline_not_mem (h : IsNumber piece) : '\n' ∉ piece := fun hn =>
  absurd (h.digits _ hn) (by decide)

theorem newline_not_mem_severity {severity : List Char} (h : severity ∈ severities) :
    '\n' ∉ severity := by
  revert severity
  decide

theorem spans_marks_iff :
    marks.Spans front piece rest ↔ ∃ number column severity, IsNumber number ∧
      (column = [] ∨ ∃ number, IsNumber number ∧ column = number ++ [':']) ∧
      severity ∈ severities ∧
      piece = [':'] ++ number ++ [':'] ++ column ++ [' '] ++ severity ++ [':'] := by
  simp only [marks, ofParts, spans_seq_iff, spans_literal_iff, spans_number_iff,
    spans_optional_iff, spans_numbered_iff, spans_words_iff]
  constructor
  case mp =>
    rintro ⟨_, _, rfl, rfl, number, _, rfl, hn, _, _, rfl, rfl, column, _, rfl, hc, _, _, rfl, rfl,
      severity, _, rfl, hs, rfl⟩
    exact ⟨number, column, severity, hn, hc, hs, by simp⟩
  case mpr =>
    rintro ⟨number, column, severity, hn, hc, hs, rfl⟩
    exact ⟨[':'], _, by simp only [List.append_assoc], rfl, number, _, rfl, hn, [':'], _, rfl, rfl,
      column, _, rfl, hc, [' '], _, rfl, rfl, severity, _, rfl, hs, rfl⟩

-- The pattern matches the beginnings of reports where a line begins.
theorem spans_expression_iff :
    expression.Spans front piece rest ↔
      Text.StartsLine '\n' front ∧ IsHead piece ∧ '\n' ∉ piece := by
  rw [expression, spans_seq_iff]
  simp only [spans_look_iff, holds_lineStart_iff, spans_file_iff, spans_marks_iff]
  constructor
  case mp =>
    rintro ⟨_, _, rfl, ⟨rfl, hl⟩, file, _, rfl, hf, hnf, number, column, severity, hn, hc, hs, rfl⟩
    have := newline_not_mem_severity hs
    have := hn.newline_not_mem
    rcases hc with rfl | ⟨column, hc, rfl⟩
    case inl => exact ⟨hl, by simpa using IsHead.intro (.line hf hn) hs, by simp_all⟩
    case inr =>
      have := hc.newline_not_mem
      exact ⟨hl, by simpa using IsHead.intro (.column hf hn hc) hs, by simp_all⟩
  case mpr =>
    rintro ⟨hl, @⟨_, severity, hp, hs⟩, hn⟩
    refine ⟨[], _, (List.nil_append _).symm, ⟨rfl, hl⟩, ?_⟩
    cases hp
    case line file number hf hd =>
      exact ⟨file, _, by simp only [List.append_assoc]; rfl, hf, by simp_all,
        number, [], severity, hd, .inl rfl, hs, by simp⟩
    case column file number column hf hd hc =>
      exact ⟨file, _, by simp only [List.append_assoc]; rfl, hf, by simp_all,
        number, column ++ [':'], severity, hd, .inr ⟨column, hc, rfl⟩, hs, by simp⟩

theorem isMatch_expression_iff {output : List Char} :
    expression.isMatch output = true ↔ ∃ front head rest, output = front ++ head ++ rest ∧
      Text.StartsLine '\n' front ∧ IsHead head ∧ '\n' ∉ head := by
  rw [isMatch_iff_spans (by simp [expression, marks, numbered, digits, severities, ofParts,
    ofBranches, IsProper])]
  simp only [spans_expression_iff]

-- The lines of an output are looked at in the same way.
theorem reports_iff {output : List Char} :
    reports output = true ↔ ∃ front head rest, output = front ++ head ++ rest ∧
      Text.StartsLine '\n' front ∧ IsHead head ∧ '\n' ∉ head := by
  rw [reports, List.any_eq_true]
  simp only [isReport_iff]
  constructor
  case mp =>
    rintro ⟨line, hl, head, hh, hp⟩
    have hn : '\n' ∉ head := fun hn => Text.not_mem_of_mem_split hl (hp.subset hn)
    have ⟨front, rest, he, hf⟩ := (Text.exists_line_iff hn).mp ⟨line, hl, hp⟩
    exact ⟨front, head, rest, he, hf, hh, hn⟩
  case mpr =>
    rintro ⟨front, head, rest, he, hf, hh, hn⟩
    have ⟨line, hl, hp⟩ := (Text.exists_line_iff hn).mpr ⟨front, rest, he, hf⟩
    exact ⟨line, hl, head, hh, hp⟩

end Diagnostic

namespace SignatureTable

theorem entries_standard : standard.entries = builtin :=
  rfl

-- Under all names but those of the other tools there are only reports.
theorem find?In_builtin {name : String} (h : name ∉ ["compile", "asan", "tsan", "ubsan"]) :
    find?In name builtin =
      if "cppcheck" = name then some [.analyzerReport]
      else if "clang-tidy" = name then some [.analyzerReport]
      else if analyzerKey = name then some [.analyzerReport]
      else none := by
  simp only [List.mem_cons, not_or, eq_comm (a := name)] at h
  have ⟨hc, ha, ht, hu, _⟩ := h
  rw [builtin, find?In, if_neg hc, find?In, if_neg ha, find?In, if_neg ht, find?In, if_neg hu]
  rfl

theorem signaturesFor_standard {name : String} (h : name ∉ ["compile", "asan", "tsan", "ubsan"]) :
    standard.signaturesFor (.analyzer name) = [.analyzerReport] := by
  rw [signaturesFor, find?, entries_standard, Tool.shortName, find?In_builtin h]
  split_ifs <;> rfl

end SignatureTable

namespace Classifier

open Diagnostic (Reports)

theorem isMatch_analyzerReport (output : String) :
    Signature.analyzerReport.isMatch output = Diagnostic.expression.isMatch output.toList := by
  rw [Bool.eq_iff_iff, Diagnostic.isMatch_expression_iff]
  exact Diagnostic.reports_iff

variable {name : String} {run : ToolRun}

theorem diagnoses_iff (hn : name ∉ ["compile", "asan", "tsan", "ubsan"]) (major : Option UInt32)
    (hr : run.tool = .analyzer name) :
    Diagnoses ⟨.standard, major⟩ run ↔
      ∃ line ∈ Text.split '\n' run.output.toList, Reports line := by
  rw [Diagnoses, hr, SignatureTable.signaturesFor_standard hn]
  have hv : Signature.analyzerReport.versions.Allows major := fun _ _ => ⟨nofun, nofun⟩
  have hm : Signature.analyzerReport.isMatch run.output = true ↔
      ∃ line ∈ Text.split '\n' run.output.toList, Reports line := by
    change Diagnostic.reports run.output.toList = true ↔ _
    rw [Diagnostic.reports, List.any_eq_true]
    simp only [Diagnostic.isReport_iff]
  rw [← hm]
  simp only [List.mem_singleton, exists_eq_left]
  exact ⟨fun h => h.shown, fun h => ⟨hv, h⟩⟩

-- What an analyzer is known to print is told by the shape of its lines, as the pattern for reports
-- tells it.
theorem classify_analyzer (hn : name ∉ ["compile", "asan", "tsan", "ubsan"])
    (major : Option UInt32) (hr : run.tool = .analyzer name) (ht : run.timedOut = false) :
    Regex.Denotes Diagnostic.pattern Diagnostic.expression ∧
    Signature.analyzerReport.isMatch run.output =
      Diagnostic.expression.isMatch run.output.toList ∧
    ((∃ labels, classify ⟨.standard, major⟩ run = .defect labels) ↔
      ∃ line ∈ Text.split '\n' run.output.toList, Reports line) ∧
    ((¬∃ line ∈ Text.split '\n' run.output.toList, Reports line) →
      (run.exitCode = some 0 → classify ⟨.standard, major⟩ run = .clean) ∧
      (run.exitCode ≠ some 0 →
        ∃ reason labels, classify ⟨.standard, major⟩ run = .inconclusive reason labels)) := by
  have hc : run.tool ≠ .compiler := hr ▸ nofun
  have hd := diagnoses_iff hn major hr
  have hl := classify_reading ⟨.standard, major⟩ run
  refine ⟨Diagnostic.denotes_expression, isMatch_analyzerReport _, ?_, fun hs => ⟨?_, ?_⟩⟩
  case refine_1 =>
    rw [hl.exists_eq_defect_iff, hd]
    exact ⟨fun h => h.2.2, fun h => ⟨ht, hc, h⟩⟩
  case refine_2 => exact fun he => hl.eq_clean_iff.mpr ⟨ht, he, fun _ => mt hd.mp hs⟩
  case refine_3 =>
    exact fun he => hl.exists_eq_inconclusive_iff.mpr (.inr ⟨hc, mt hd.mp hs, he⟩)

end Classifier

namespace Sample

-- A report behind a summary, and lines that only look like reports.
theorem report_told_from_summaries :
    (∃ labels, Classifier.classify ⟨.standard, some 13⟩
      (runOf "pvs-studio" "2 warnings generated.\nsrc/a.cpp:3:14: warning: leak") =
        .defect labels) ∧
    Classifier.classify ⟨.standard, some 13⟩
      (runOf "pvs-studio" "2 warnings generated.\n a.cpp:3: error: x\na.cpp:3:14:error: x") =
        .clean := by
  have ⟨_, _, hd, _⟩ := Classifier.classify_analyzer (by decide) (some 13)
    (rfl : (runOf "pvs-studio" "2 warnings generated.\nsrc/a.cpp:3:14: warning: leak").tool = _) rfl
  have ⟨_, _, _, hc⟩ := Classifier.classify_analyzer (by decide) (some 13)
    (rfl : (runOf "pvs-studio"
      "2 warnings generated.\n a.cpp:3: error: x\na.cpp:3:14:error: x").tool = _) rfl
  simp only [← Diagnostic.isReport_iff] at hd hc
  exact ⟨hd.mpr (by decide +kernel), (hc (by decide +kernel)).1 rfl⟩

end Sample
end CourseAudit
