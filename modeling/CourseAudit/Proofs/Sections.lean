import CourseAudit.Proofs.Accounting
import CourseAudit.Proofs.Enumeration
import CourseAudit.Proofs.TableReading
import CourseAudit.Proofs.Totals
import CourseAudit.Report.Markdown

/-!
What a reader of the written report learns about the patterns of a course. Each module has a table
with a row for each of its patterns, and with totals that are the sums of these rows. Main
statement: `Report.markdown_shows`.
-/
namespace CourseAudit

-- What is read of one pattern.
structure PatternRow where
  name : String
  passed : Nat
  evaluated : Nat
  failed : Nat
  inconclusive : Nat
  skipped : Nat
  deriving DecidableEq, Repr

-- What is read of one module: its patterns, and the counts of the last row.
structure PatternTable where
  rows : List PatternRow
  passed : Nat
  evaluated : Nat
  deriving DecidableEq, Repr

-- The row of a scorecard. Of the name, newlines show as blanks, and blanks around it do not show.
def PatternRow.of (s : Scorecard) : PatternRow where
  name         := String.ofList (Report.shown s.patternName.toList)
  passed       := s.passedCount
  evaluated    := s.evaluatedCount
  failed       := s.count .failed
  inconclusive := s.count .inconclusive
  skipped      := s.count .skipped

namespace Report

/-! ### Reading -/

def readNumber (digits : List Char) : Option Nat :=
  if digits ≠ [] ∧ digits.all Char.isDigit then some (Nat.ofDigitChars 10 digits 0) else none

def readCounts (cell : Cell) : Option (Nat × Nat) :=
  match Text.split '/' cell with
  | [passed, evaluated] => do some (← readNumber passed, ← readNumber evaluated)
  | _ => none

def readPattern : List Cell → Option PatternRow
  | [name, _, _, counts, failed, inconclusive, skipped] => do
    let (passed, evaluated) ← readCounts counts
    let failed ← readNumber failed
    let inconclusive ← readNumber inconclusive
    let skipped ← readNumber skipped
    some ⟨String.ofList name, passed, evaluated, failed, inconclusive, skipped⟩
  | _ => none

def readTotal : List Cell → Option (Nat × Nat)
  | [_, _, _, counts, _, _, _] => readCounts counts
  | _ => none

-- The last row of a table with the columns for patterns is the total of the rows above.
def readTable (text : String) : Option PatternTable := do
  let (headers, body) ← readRows text.toList
  if headers = patternColumns.map (·.1.toList) then
    let (passed, evaluated) ← readTotal (← body.getLast?)
    let rows ← body.dropLast.mapM readPattern
    some ⟨rows, passed, evaluated⟩
  else none

theorem isDigit_of_mem_toString {n : Nat} {c : Char} (h : c ∈ (toString n).toList) :
    c.isDigit = true := by
  rw [Nat.toString_eq_repr, Nat.toList_repr] at h
  exact Nat.isDigit_of_mem_toDigits (by decide) (by decide) h

theorem isBlank_of_isDigit {c : Char} (h : c.isDigit = true) : Text.isBlank c = false := by
  have hd : 48 ≤ c.toNat ∧ c.toNat ≤ 57 := by simpa [Char.isDigit, UInt32.le_iff_toNat_le] using h
  simp only [Text.isBlank]
  grind

theorem readNumber_toString (n : Nat) : readNumber (toString n).toList = some n := by
  have hd : (toString n).toList.all Char.isDigit = true :=
    List.all_eq_true.mpr fun _ => isDigit_of_mem_toString
  have hv : Nat.ofDigitChars 10 (toString n).toList 0 = n := by
    rw [Nat.toString_eq_repr, Nat.toList_repr]
    exact Nat.ofDigitChars_ten_toDigits
  have hn : (toString n).toList ≠ [] := by
    rw [Nat.toString_eq_repr, Nat.toList_repr]
    exact Nat.toDigits_ne_nil
  rw [readNumber, if_pos ⟨hn, hd⟩, hv]

theorem shown_toString (n : Nat) : shown (toString n).toList = (toString n).toList :=
  shown_of_forall fun _ h => isBlank_of_isDigit (isDigit_of_mem_toString h)

theorem toList_countText (passed evaluated : Nat) :
    (countText passed evaluated).toList =
      (toString passed).toList ++ '/' :: (toString evaluated).toList := by
  simp [countText]

theorem readCounts_countText (passed evaluated : Nat) :
    readCounts (shown (countText passed evaluated).toList) = some (passed, evaluated) := by
  have hs (n : Nat) : '/' ∉ (toString n).toList :=
    fun h => absurd (isDigit_of_mem_toString h) (by decide)
  have hb : ∀ c ∈ (countText passed evaluated).toList, Text.isBlank c = false := by
    intro c hc
    rw [toList_countText, List.mem_append, List.mem_cons] at hc
    rcases hc with hc | rfl | hc
    · exact isBlank_of_isDigit (isDigit_of_mem_toString hc)
    · rfl
    · exact isBlank_of_isDigit (isDigit_of_mem_toString hc)
  rw [shown_of_forall hb, readCounts, toList_countText, Text.split_append_cons,
    Text.split_of_not_mem (hs _), Text.split_of_not_mem (hs _)]
  dsimp only [List.singleton_append]
  rw [readNumber_toString, readNumber_toString]
  rfl

theorem readPattern_row (s : Scorecard) :
    readPattern ((s.row.map String.toList).map shown) = some (.of s) := by
  simp only [Scorecard.row, List.map_cons, List.map_nil, readPattern, readCounts_countText,
    shown_toString, readNumber_toString]
  rfl

/-! ### The table of a module -/

theorem mapM_readPattern (cards : List Scorecard) :
    (cards.map fun s => (s.row.map String.toList).map shown).mapM readPattern =
      some (cards.map .of) := by
  simp only [List.mapM_map, Function.comp_def, readPattern_row]
  exact List.mapM_pure

-- The row of the totals is filled up with empty cells.
theorem moduleTable_holds (r : Report) (m : ModuleSummary) :
    (r.moduleTable m).Holds (patternColumns.map (·.1.toList))
      ((r.scorecardsOf m.module).map (fun s => s.row.map String.toList) ++
        [m.totalRow.map String.toList ++ [[], [], []]]) := by
  have hc : (Table.ofColumns patternColumns).Holds (patternColumns.map (·.1.toList)) [] :=
    .ofColumns (by decide) (by decide)
  have hp : ((r.scorecardsOf m.module).map (·.row)).map
      (fun cells => fitRow (Table.ofColumns patternColumns).columns.length
        (cells.map String.toList)) =
      (r.scorecardsOf m.module).map fun s => s.row.map String.toList := by
    rw [List.map_map]
    exact List.map_congr_left fun s _ => fitRow_of_length rfl
  have h := (hc.pushAll ((r.scorecardsOf m.module).map (·.row))).push m.totalRow
  rw [hp, Table.columns_pushAll] at h
  exact h

theorem readTotal_totalRow (m : ModuleSummary) :
    readTotal ((m.totalRow.map String.toList ++ [[], [], []]).map shown) =
      some (m.passedChecks, m.evaluatedChecks) := by
  simp only [ModuleSummary.totalRow, List.map_cons, List.map_nil, List.cons_append,
    List.nil_append, readTotal, readCounts_countText]

theorem readTable_moduleTable (r : Report) (m : ModuleSummary) :
    readTable (r.moduleTable m).render =
      some ⟨(r.scorecardsOf m.module).map .of, m.passedChecks, m.evaluatedChecks⟩ := by
  have hh : (patternColumns.map (·.1.toList)).map shown = patternColumns.map (·.1.toList) := by
    decide +kernel
  have hm := mapM_readPattern (r.scorecardsOf m.module)
  have ht := readTotal_totalRow m
  have hr := (moduleTable_holds r m).readRows_rendered
  simp only [hh, List.map_append, List.map_map, List.map_singleton, Function.comp_def] at hm ht hr
  rw [readTable, Table.render, String.toList_ofList, hr]
  simp only [bind, Option.bind_some, if_true, List.getLast?_concat, List.dropLast_concat, ht, hm]

/-! ### The whole report -/

-- What stands before the sections of the modules, and what stands behind them.
def opening (r : Report) : List String := [
  "# C++ Pattern Security Validation Report",
  r.headerText,
  "## Overall Statistics",
  r.statisticsText]

def closing (r : Report) (threshold : Float) : List String := [
  "## Problem Patterns (below " ++ thresholdText threshold ++ "%)",
  r.problemsText threshold,
  "## Recommendations",
  Text.joinStrings "\n" r.recommendations,
  "## Legend",
  legend]

-- What the written report shows of the patterns, the tables of its modules being read back.
structure Shows (r : Report) (threshold : Float) (tables : List PatternTable) : Prop where
  sections : r.markdown threshold = sectionsText (r.opening ++
    (r.modules.flatMap fun m => [m.heading, (r.moduleTable m).render]) ++ r.closing threshold)
  read     : r.modules.mapM (fun m => readTable (r.moduleTable m).render) = some tables
  rows     : tables.map (·.rows) = r.modules.map fun m => (r.scorecardsOf m.module).map .of
  sums     : ∀ table ∈ tables, table.passed = total (·.passed) table.rows ∧
    table.evaluated = total (·.evaluated) table.rows
  -- Every scorecard is in the section of one module.
  once     : ∀ card ∈ r.scorecards, ∃ m ∈ r.modules, card ∈ r.scorecardsOf m.module ∧
    ∀ m' ∈ r.modules, card ∈ r.scorecardsOf m'.module → m' = m
  all      : (r.modules.flatMap fun m => r.scorecardsOf m.module).Perm r.scorecards

-- The table that is read of a module.
def tableOf (r : Report) (m : ModuleSummary) : PatternTable where
  rows      := (r.scorecardsOf m.module).map .of
  passed    := m.passedChecks
  evaluated := m.evaluatedChecks

theorem total_map {α β : Type} (count : β → Nat) (f : α → β) (members : List α) :
    total count (members.map f) = total (fun a => count (f a)) members := by
  rw [total, List.foldr_map]
  rfl

section

variable (title : String → String) (mode : Mode) (moment : Moment) (cards : List Scorecard)

theorem mem_modules_of {m : ModuleSummary} (h : m ∈ (of title mode moment cards).modules) :
    m = .of title m.module ((of title mode moment cards).scorecardsOf m.module) := by
  rw [modules_of] at h
  obtain ⟨name, -, rfl⟩ := List.mem_map.mp h
  rfl

theorem exists_module_of_mem {card : Scorecard} (h : card ∈ cards) :
    let r := of title mode moment cards
    ∃ m ∈ r.modules, card ∈ r.scorecardsOf m.module ∧
      ∀ m' ∈ r.modules, card ∈ r.scorecardsOf m'.module → m' = m := by
  intro r
  have hn : card.module ∈ moduleNames cards := mem_moduleNames.mpr ⟨card, h, rfl⟩
  refine ⟨_, List.mem_map_of_mem hn, ?_, fun m' hm' hc => ?_⟩
  · exact List.mem_filter.mpr ⟨h, decide_eq_true rfl⟩
  · have hm : card.module = m'.module := of_decide_eq_true (List.mem_filter.mp hc).2
    rw [mem_modules_of title mode moment cards hm', ← hm]
    rfl

theorem shows_of (threshold : Float) :
    let r := of title mode moment cards
    r.Shows threshold (r.modules.map r.tableOf) := by
  intro r
  constructor
  case sections => rfl
  case read =>
    simp only [readTable_moduleTable]
    exact List.mapM_pure
  case rows => rw [List.map_map]; rfl
  case sums =>
    intro table ht
    obtain ⟨m, hm, rfl⟩ := List.mem_map.mp ht
    have hm := mem_modules_of title mode moment cards hm
    simp only [tableOf, total_map]
    constructor
    · rw [hm]; rfl
    · rw [hm]; rfl
  case once => exact fun card => exists_module_of_mem title mode moment cards
  case all => exact flatMap_scorecardsOf_perm title mode moment cards

end

/-! ### The order of the patterns -/

section

variable {card : Scorecard} {name : String} {names : List String} {cards : List Scorecard}

theorem membersOf_cons_self (card : Scorecard) (cards : List Scorecard) :
    membersOf (card :: cards) card.module = card :: membersOf cards card.module :=
  List.filter_cons_of_pos (decide_eq_true rfl)

theorem membersOf_cons_of_ne (h : card.module ≠ name) (cards : List Scorecard) :
    membersOf (card :: cards) name = membersOf cards name :=
  List.filter_cons_of_neg (by simpa using h)

theorem membersOf_eq_nil (h : name ∉ moduleNames cards) : membersOf cards name = [] := by
  rw [membersOf, List.filter_eq_nil_iff]
  intro card hc he
  exact h (mem_moduleNames.mpr ⟨card, hc, of_decide_eq_true he⟩)

-- A scorecard does not show in the sections of modules behind its own.
theorem flatMap_membersOf_cons (h : ∀ name ∈ names, card.module < name)
    (cards : List Scorecard) :
    names.flatMap (membersOf (card :: cards)) = names.flatMap (membersOf cards) :=
  List.flatMap_congr fun name hn => membersOf_cons_of_ne (String.ne_of_lt (h name hn)) cards

-- By induction on the scorecards. The first one has the least name of a module, so its section is
-- the first one: a new one, or the one that the others start with.
theorem flatMap_membersOf_eq (h : cards.Pairwise fun card card' => card.module ≤ card'.module) :
    (moduleNames cards).flatMap (membersOf cards) = cards := by
  induction cards
  case nil => rfl
  case cons card cards hi =>
    obtain ⟨hl, h⟩ := List.pairwise_cons.mp h
    have hi := hi h
    have hw := moduleNames_pairwise cards
    have hle : ∀ name ∈ moduleNames cards, card.module ≤ name := by
      intro name hn
      obtain ⟨card', hc, rfl⟩ := mem_moduleNames.mp hn
      exact hl card' hc
    rw [moduleNames, List.foldr_cons, ← moduleNames]
    cases hn : moduleNames cards <;> rw [hn] at hi hw hle
    case nil =>
      obtain rfl : [] = cards := hi
      rw [insertName, List.flatMap_singleton, membersOf_cons_self]
      rfl
    case cons first rest =>
      have hlt := (List.pairwise_cons.mp hw).1
      rw [insertName]
      split
      case isTrue hc =>
        have hlt : ∀ name ∈ first :: rest, card.module < name :=
          List.forall_mem_cons.mpr ⟨hc, fun name hm => String.lt_trans hc (hlt name hm)⟩
        have hm : membersOf cards card.module = [] :=
          membersOf_eq_nil fun hm => String.lt_irrefl _ (hlt _ (hn ▸ hm))
        rw [List.flatMap_cons, membersOf_cons_self, hm, flatMap_membersOf_cons hlt, hi]
        rfl
      case isFalse hc =>
        have he : card.module = first := by
          by_contra hne
          exact hc (Std.lt_of_le_of_ne (hle first List.mem_cons_self) hne)
        rw [List.flatMap_cons, ← he] at hi
        rw [if_pos he, List.flatMap_cons, ← he, membersOf_cons_self,
          flatMap_membersOf_cons (he ▸ hlt), List.cons_append, hi]

end

end Report

namespace Course

-- Patterns are found by module.
theorem findPatterns_increasing {files : SoundTree} {root : Path} {patterns : List Path}
    (h : findPatterns files root = .ok patterns) :
    patterns.Pairwise fun p q => moduleName p ≤ moduleName q := by
  have hp : patternsBelow files root = patterns := by
    rw [findPatterns] at h
    split at h
    case h_1 => exact Except.ok.inj h
    case h_2 => cases h
  rw [← hp, patternsBelow_eq, List.pairwise_map]
  refine (namesBelow_increasing files.lister root).imp_of_mem ?_
  rintro ⟨module, name⟩ ⟨module', name'⟩ hm hm' hlt
  rw [(mem_namesBelow.mp hm).moduleName_path, (mem_namesBelow.mp hm').moduleName_path]
  exact hlt.elim Std.le_of_lt fun he => Std.le_of_eq he.1

end Course

-- The scorecards of a course say of which patterns they are.
theorem Auditor.validateCourse_ok {σ : Type} {v : Auditor} {files : FileTree} {host : Host σ}
    {root : Path} {options : Options} {s : Session σ} {cards : List Scorecard}
    (h : (v.validateCourse files host root options s).1 = .ok cards) :
    ∃ patterns, Course.findPatterns files root = .ok patterns ∧
      patterns.map Course.moduleName = cards.map (·.module) ∧
      patterns.map Course.patternName = cards.map (·.patternName) := by
  rw [validateCourse] at h
  split at h
  case h_1 => cases h
  case h_2 patterns hp =>
    obtain rfl := Except.ok.inj h
    have hc : List.Forall₂ (fun p card => card.IsFor p) patterns
        (v.validateAll files host options patterns s).1 :=
      (validateAll_covers patterns s).imp fun _ _ h => h.1
    refine ⟨patterns, hp, ?_, ?_⟩ <;>
      rw [← List.forall₂_eq_eq_eq, List.forall₂_map_left_iff, List.forall₂_map_right_iff]
    · exact hc.imp fun _ _ h => h.module.symm
    · exact hc.imp fun _ _ h => h.patternName.symm

namespace Report

-- If the scorecards are sorted by module, the sections of the modules keep their order.
theorem names_flatMap_tableOf (title : String → String) (mode : Mode) (moment : Moment)
    {cards : List Scorecard} (h : cards.Pairwise fun card card' => card.module ≤ card'.module) :
    let r := of title mode moment cards
    ((r.modules.map r.tableOf).flatMap (·.rows)).map (·.name) =
      cards.map fun card => String.ofList (shown card.patternName.toList) := by
  intro r
  have hm : (r.modules.flatMap fun m => r.scorecardsOf m.module) = cards := by
    rw [modules_of, List.flatMap_map]
    exact flatMap_membersOf_eq h
  rw [List.flatMap_map, List.map_flatMap]
  simp only [tableOf, List.map_map]
  rw [← List.map_flatMap, hm]
  rfl

-- The written report shows every pattern once, in the section of its module. If it is about a whole
-- course, the sections show the patterns in the order in which they were found.
theorem markdown_shows (title : String → String) (mode : Mode) (moment : Moment)
    (cards : List Scorecard) (threshold : Float) :
    ∃ tables, (of title mode moment cards).Shows threshold tables ∧
      ∀ {σ : Type} (v : Auditor) (files : SoundTree) (host : Host σ) (root : Path)
        (options : Options) (s : Session σ),
        (v.validateCourse files host root options s).1 = .ok cards →
        ∃ patterns, Course.findPatterns files root = .ok patterns ∧
          (tables.flatMap (·.rows)).map (·.name) =
            patterns.map fun p => String.ofList (shown (Course.patternName p).toList) := by
  have hs := shows_of title mode moment cards threshold
  refine ⟨_, hs, fun v files host root options s hv => ?_⟩
  have ⟨patterns, hp, hm, hn⟩ := Auditor.validateCourse_ok hv
  have hw := List.pairwise_map.mpr (Course.findPatterns_increasing hp)
  rw [hm, List.pairwise_map] at hw
  refine ⟨patterns, hp, (names_flatMap_tableOf title mode moment hw).trans ?_⟩
  have hn := congrArg (List.map fun name => String.ofList (shown name.toList)) hn
  rw [List.map_map, List.map_map] at hn
  exact hn.symm

end Report

namespace Sample

def soundCourse : SoundTree where
  toFileTree := course
  sound      := by decide +kernel

-- The report on two patterns, one of which could not be validated.
theorem course_shown_of_fragile_tools :
    ∃ (cards : List Scorecard) (tables : List PatternTable),
      (auditor.validateCourse course fragileHost ⟨"/"⟩ ⟨.full, false⟩ (.initial 0)).1 =
        .ok cards ∧
      (Report.of id .full ⟨0, 0⟩ cards).Shows 90 tables ∧
      (tables.flatMap (·.rows)).map (·.name) = ["queue", "pool"] := by
  have hv : (auditor.validateCourse course fragileHost ⟨"/"⟩ ⟨.full, false⟩ (.initial 0)).1 =
      .ok (auditor.validateAll course fragileHost ⟨.full, false⟩ [directory, pool]
        (.initial 0)).1 := by
    rw [Auditor.validateCourse, findPatterns_course]
  obtain ⟨tables, hs, hr⟩ := Report.markdown_shows id .full ⟨0, 0⟩
    (auditor.validateAll course fragileHost ⟨.full, false⟩ [directory, pool] (.initial 0)).1 90
  obtain ⟨patterns, hp, hn⟩ := hr auditor soundCourse fragileHost ⟨"/"⟩ ⟨.full, false⟩
    (.initial 0) hv
  cases findPatterns_course.symm.trans hp
  exact ⟨_, tables, hv, hs, hn.trans (by decide +kernel)⟩

end Sample
end CourseAudit
