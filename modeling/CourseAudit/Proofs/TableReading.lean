import Mathlib.Data.List.Forall2
import CourseAudit.Report.Table
import CourseAudit.Text.Blank

/-!
Reading a Markdown table back. A reader cuts a line at its bars, where a bar behind a backslash
belongs to the text, and trims the pieces. Main statement: `Table.Holds.readRows_rendered` (what was
put into a table is read from it, with blanks for newlines).
-/
namespace CourseAudit

namespace Text

-- A text without what is taken away at its ends.
def strip (p : Char → Bool) (text : List Char) : List Char :=
  ((text.dropWhile p).reverse.dropWhile p).reverse

theorem strip_append {p : Char → Bool} {front back : List Char} (hf : ∀ c ∈ front, p c = true)
    (hb : ∀ c ∈ back, p c = true) (text : List Char) :
    strip p (front ++ text ++ back) = strip p text := by
  have hr : ∀ c ∈ back.reverse, p c = true := by simpa using hb
  have hd : (back ++ []).dropWhile p = [] := List.dropWhile_append_of_pos hb
  rw [List.append_nil] at hd
  rw [strip, strip, List.append_assoc, List.dropWhile_append_of_pos hf, List.dropWhile_append]
  split
  case isTrue he => rw [hd, List.isEmpty_iff.mp he]
  case isFalse => rw [List.reverse_append, List.dropWhile_append_of_pos hr]

theorem trim_append {front back : List Char} (hf : ∀ c ∈ front, isBlank c = true)
    (hb : ∀ c ∈ back, isBlank c = true) (text : List Char) :
    trim (front ++ text ++ back) = trim text :=
  strip_append hf hb text

theorem trim_of_forall {text : List Char} (h : ∀ c ∈ text, isBlank c = false) :
    trim text = text := by
  have hd {text : List Char} (h : ∀ c ∈ text, isBlank c = false) :
      text.dropWhile isBlank = text := by
    cases text
    case nil => rfl
    case cons c rest => exact List.dropWhile_cons_of_neg (by simp [h c List.mem_cons_self])
  rw [trim, trimLeft, hd h, trimRight, hd (by simpa using h), List.reverse_reverse]

theorem newline_not_mem {text : List Char} (h : ∀ c ∈ text, isBlank c = false) : '\n' ∉ text :=
  fun hn => Bool.noConfusion (h _ hn)

theorem replaceChar_of_not_mem {c : Char} {text : List Char} (h : c ∉ text) (by' : List Char) :
    replaceChar c by' text = text := by
  induction text
  case nil => rfl
  case cons x rest hi =>
    have ⟨hx, hr⟩ := not_or.mp (mt List.mem_cons.mpr h)
    have hi : rest.flatMap (fun x => if x = c then by' else [x]) = rest := hi hr
    rw [replaceChar, List.flatMap_cons, if_neg (Ne.symm hx), hi]
    rfl

end Text

namespace Report

/-! ### Reading -/

def prepend (c : Char) : List (List Char) → List (List Char)
  | [] => [[c]]
  | piece :: pieces => (c :: piece) :: pieces

-- The pieces of a line between its bars. A backslash only tells that the bar behind it is text.
def cutAtBars : List Char → List (List Char)
  | [] => [[]]
  | '\\' :: '|' :: rest => prepend '|' (cutAtBars rest)
  | '|' :: rest => [] :: cutAtBars rest
  | c :: rest => prepend c (cutAtBars rest)

-- The cells of a line that starts and ends with a bar.
def readRow (line : List Char) : Option (List Cell) :=
  match cutAtBars line with
  | [] :: pieces =>
    if pieces.getLast? = some [] then some (pieces.dropLast.map Text.trim) else none
  | _ => none

-- A cell of the line that tells a table from other text.
def isRule (cell : Cell) : Bool :=
  cell.contains '-' && cell.all fun c => c = '-' || c = ':'

-- The headers and the other rows of a table.
def readRows (text : List Char) : Option (List Cell × List (List Cell)) := do
  let rows ← (Text.split '\n' text).mapM readRow
  match rows with
  | headers :: rule :: body => if rule.all isRule then some (headers, body) else none
  | _ => none

-- What can be seen of a text in a cell.
def shown (cell : List Char) : Cell :=
  Text.trim (Text.replaceChar '\n' [' '] cell)

theorem shown_of_forall {cell : List Char} (h : ∀ c ∈ cell, Text.isBlank c = false) :
    shown cell = cell := by
  rw [shown, Text.replaceChar_of_not_mem (Text.newline_not_mem h), Text.trim_of_forall h]

/-! ### Cells -/

theorem cutAtBars_cons {c : Char} {rest : List Char} (hc : c ≠ '|')
    (hr : c = '\\' → rest.head? ≠ some '|') :
    cutAtBars (c :: rest) = prepend c (cutAtBars rest) := by
  refine cutAtBars.eq_4 c rest ?_ hc
  rintro rest' h rfl
  exact hr h rfl

theorem foldr_prepend (text piece : List Char) (pieces : List (List Char)) :
    text.foldr prepend (piece :: pieces) = (text ++ piece) :: pieces := by
  induction text
  case nil => rfl
  case cons c rest hi => rw [List.foldr_cons, hi]; rfl

-- Text without bars and backslashes is taken as it is.
theorem cutAtBars_append {text : List Char} (hb : '|' ∉ text) (hs : '\\' ∉ text)
    (rest : List Char) : cutAtBars (text ++ rest) = text.foldr prepend (cutAtBars rest) := by
  induction text
  case nil => rfl
  case cons c text hi =>
    have ⟨hc, hb⟩ := not_or.mp (mt List.mem_cons.mpr hb)
    have ⟨hc', hs⟩ := not_or.mp (mt List.mem_cons.mpr hs)
    rw [List.cons_append, cutAtBars_cons (Ne.symm hc) fun h => (hc' h.symm).elim, hi hb hs]
    rfl

theorem not_mem_blanks {c : Char} (h : c ≠ ' ') (count : Nat) : c ∉ blanks count :=
  fun hm => h (List.eq_of_mem_replicate hm)

theorem cutAtBars_blanks (count : Nat) (rest : List Char) :
    cutAtBars (blanks count ++ rest) = (blanks count).foldr prepend (cutAtBars rest) :=
  cutAtBars_append (not_mem_blanks (by decide) count) (not_mem_blanks (by decide) count) rest

theorem escapeCell_cons (c : Char) (cell : List Char) :
    escapeCell (c :: cell) =
      (if c = '|' then ['\\', '|'] else if c = '\n' then [' '] else [c]) ++ escapeCell cell := by
  by_cases hb : c = '|' <;> by_cases hn : c = '\n' <;> simp_all [escapeCell, Text.replaceChar]

-- No escaped cell starts with a bar, so no backslash of a text comes before one.
theorem head?_escapeCell_append_ne (cell rest : List Char) :
    (escapeCell cell ++ ' ' :: rest).head? ≠ some '|' := by
  cases cell
  case nil => simp [escapeCell, Text.replaceChar]
  case cons c cell =>
    rw [escapeCell_cons]
    split
    case isTrue => simp
    case isFalse hb => split <;> simp [hb]

-- By induction on the text of the cell. There is a blank behind it, so its last character cannot
-- change the meaning of the bar that ends the cell.
theorem cutAtBars_escapeCell (cell rest : List Char) :
    cutAtBars (escapeCell cell ++ ' ' :: rest) =
      (Text.replaceChar '\n' [' '] cell).foldr prepend (cutAtBars (' ' :: rest)) := by
  induction cell
  case nil => rfl
  case cons c cell hi =>
    rw [escapeCell_cons, Text.replaceChar, List.flatMap_cons, List.append_assoc,
      List.foldr_append, ← Text.replaceChar, ← hi]
    by_cases hb : c = '|'
    case pos =>
      subst hb
      rfl
    case neg =>
      rw [if_neg hb]
      by_cases hn : c = '\n'
      case pos =>
        rw [if_pos hn]
        exact cutAtBars_cons (by decide) nofun
      case neg =>
        rw [if_neg hn]
        exact cutAtBars_cons hb fun _ => head?_escapeCell_append_ne cell rest

theorem not_mem_escapeCell (cell : List Char) : '\n' ∉ escapeCell cell := by
  induction cell
  case nil => nofun
  case cons c cell hi =>
    rw [escapeCell_cons, List.mem_append, not_or]
    refine ⟨?_, hi⟩
    split
    case isTrue => decide
    case isFalse =>
      split
      case isTrue => decide
      case isFalse hn => simp [Ne.symm hn]

-- In a row, the text is read as the cell.
structure Reads (text : List Char) (cell : Cell) : Prop where
  flat   : '\n' ∉ text
  pieces : ∃ piece, Text.trim piece = cell ∧
    ∀ rest, cutAtBars (' ' :: text ++ ' ' :: '|' :: rest) = piece :: cutAtBars rest

theorem blanks_append_cons (count : Nat) (rest : List Char) :
    blanks count ++ ' ' :: rest = ' ' :: (blanks count ++ rest) := by
  induction count
  case zero => rfl
  case succ count hi => exact congrArg (' ' :: ·) hi

theorem isBlank_of_mem_blanks {count : Nat} {c : Char} (h : c ∈ blanks count) :
    Text.isBlank c = true := by
  rw [List.eq_of_mem_replicate h]
  rfl

theorem reads_blanks (before behind : Nat) (cell : List Char) :
    Reads (blanks before ++ escapeCell cell ++ blanks behind) (shown cell) := by
  have hf : ∀ count, '\n' ∉ blanks count := not_mem_blanks (by decide)
  refine ⟨by simp [hf, not_mem_escapeCell],
    blanks (before + 1) ++ Text.replaceChar '\n' [' '] cell ++ blanks (behind + 1),
    Text.trim_append (fun _ => isBlank_of_mem_blanks) (fun _ => isBlank_of_mem_blanks) _,
    fun rest => ?_⟩
  have hl : ' ' :: (blanks before ++ escapeCell cell ++ blanks behind) ++ ' ' :: '|' :: rest =
      blanks (before + 1) ++ (escapeCell cell ++ ' ' :: (blanks behind ++ '|' :: rest)) := by
    rw [← blanks_append_cons, List.cons_append, List.append_assoc, List.append_assoc]
    rfl
  have hb : cutAtBars (' ' :: (blanks behind ++ '|' :: rest)) =
      blanks (behind + 1) :: cutAtBars rest := by
    refine (cutAtBars_blanks (behind + 1) ('|' :: rest)).trans ?_
    rw [cutAtBars, foldr_prepend, List.append_nil]
  rw [hl, cutAtBars_blanks, cutAtBars_escapeCell, hb, foldr_prepend, foldr_prepend,
    List.append_assoc]

theorem reads_pad (width : Nat) (alignment : Alignment) (cell : List Char) :
    Reads (pad width alignment (escapeCell cell)) (shown cell) := by
  cases alignment
  case right =>
    have h := reads_blanks (width - Unicode.width (escapeCell cell)) 0 cell
    rwa [show blanks 0 = [] from rfl, List.append_nil] at h
  case center => exact reads_blanks ..
  all_goals exact reads_blanks 0 _ cell

-- A text without anything special is read as it is.
theorem reads_self {text : List Char} (hb : '|' ∉ text)
    (ht : ∀ c ∈ text, Text.isBlank c = false) : Reads text text := by
  have hne : escapeCell text = text := by
    rw [escapeCell, Text.replaceChar_of_not_mem hb,
      Text.replaceChar_of_not_mem (Text.newline_not_mem ht)]
  have h := reads_blanks 0 0 text
  rwa [show blanks 0 = [] from rfl, List.append_nil, List.nil_append, hne, shown_of_forall ht] at h

/-! ### Rows -/

theorem rowText_eq {texts : List (List Char)} (h : texts ≠ []) :
    rowText texts = '|' :: texts.flatMap fun text => ' ' :: text ++ [' ', '|'] := by
  induction texts
  case nil => exact (h rfl).elim
  case cons text rest hi =>
    cases rest
    case nil => simp [rowText, Text.join]
    case cons next rest =>
      have hi := List.cons.inj (hi (by simp))
      rw [List.flatMap_cons, ← hi.2, rowText, Text.join_cons_cons]
      simp

theorem cutAtBars_flatMap {texts : List (List Char)} {cells : List Cell}
    (h : List.Forall₂ Reads texts cells) :
    ∃ pieces, cutAtBars (texts.flatMap fun text => ' ' :: text ++ [' ', '|']) = pieces ++ [[]] ∧
      pieces.map Text.trim = cells := by
  induction h
  case nil => exact ⟨[], rfl, rfl⟩
  case cons ht _ hi =>
    have ⟨piece, hp, ht⟩ := ht.pieces
    have ⟨pieces, hc, hm⟩ := hi
    refine ⟨piece :: pieces, ?_, by rw [List.map_cons, hp, hm]⟩
    rw [List.flatMap_cons, List.append_assoc]
    exact (ht _).trans (congrArg (piece :: ·) hc)

theorem not_mem_rowText {texts : List (List Char)} (h : ∀ text ∈ texts, '\n' ∉ text) :
    '\n' ∉ rowText texts := by
  have hj : '\n' ∉ Text.join [' ', '|', ' '] texts := by
    induction texts
    case nil => nofun
    case cons text rest hi =>
      have ⟨ht, hr⟩ := List.forall_mem_cons.mp h
      cases rest
      case nil => exact ht
      case cons next rest => simp [Text.join_cons_cons, ht, hi hr]
  simp [rowText, hj]

-- A line is a row of cells.
structure IsRow (line : List Char) (cells : List Cell) : Prop where
  flat : '\n' ∉ line
  read : readRow line = some cells

theorem isRow_rowText {texts : List (List Char)} {cells : List Cell}
    (h : List.Forall₂ Reads texts cells) (hne : texts ≠ []) : IsRow (rowText texts) cells where
  flat := by
    have ⟨hf, _⟩ := (List.forall₂_and_left _ _).mp (h.imp fun _ _ ht => ⟨ht.flat, ht⟩)
    exact not_mem_rowText hf
  read := by
    have ⟨pieces, hc, hm⟩ := cutAtBars_flatMap h
    rw [readRow, rowText_eq hne, cutAtBars, hc]
    simp [hm]

theorem fitRow_map (count : Nat) (cells : List (List Char)) :
    fitRow count (cells.map escapeCell) = (fitRow count cells).map escapeCell := by
  induction count generalizing cells
  case zero => cases cells <;> rfl
  case succ count hi =>
    cases cells
    case nil => exact congrArg ([] :: ·) (hi [])
    case cons cell rest => exact congrArg (escapeCell cell :: ·) (hi rest)

theorem fitRow_of_length {count : Nat} {cells : List Cell} (h : cells.length = count) :
    fitRow count cells = cells := by
  induction count generalizing cells
  case zero => rw [List.length_eq_zero_iff.mp h]; rfl
  case succ count hi =>
    cases cells
    case nil => cases h
    case cons cell rest => exact congrArg (cell :: ·) (hi (Nat.succ.inj h))

/-! ### Tables -/

namespace Table

-- The texts that were put into a table, as they can be written into its cells.
structure Holds (t : Table) (headers : List (List Char)) (rows : List (List (List Char))) :
    Prop where
  nonempty : t.columns ≠ []
  head     : t.columns.map (·.header) = headers.map escapeCell
  body     : t.rows = rows.map (·.map escapeCell)

theorem Holds.ofColumns {columns : List (String × Alignment)} (hne : columns ≠ [])
    (hb : ∀ c ∈ columns, escapeCell c.1.toList = c.1.toList) :
    (ofColumns columns).Holds (columns.map (·.1.toList)) [] where
  nonempty := by simpa [Table.ofColumns] using hne
  head     := by
    simp only [Table.ofColumns, List.map_map]
    exact List.map_congr_left fun c hc => (hb c hc).symm
  body     := rfl

variable {t : Table} {headers : List (List Char)} {rows : List (List (List Char))}

theorem Holds.push (h : t.Holds headers rows) (cells : List String) :
    (t.push cells).Holds headers
      (rows ++ [fitRow t.columns.length (cells.map String.toList)]) where
  nonempty := h.nonempty
  head     := h.head
  body     := by
    have hf := fitRow_map t.columns.length (cells.map String.toList)
    rw [List.map_map] at hf
    rw [List.map_append, ← h.body, List.map_singleton, ← hf]
    rfl

theorem columns_pushAll (t : Table) (rows : List (List String)) :
    (t.pushAll rows).columns = t.columns := by
  induction rows generalizing t
  case nil => rfl
  case cons cells rows hi => exact hi (t.push cells)

theorem Holds.pushAll (h : t.Holds headers rows) (more : List (List String)) :
    (t.pushAll more).Holds headers
      (rows ++ more.map fun cells => fitRow t.columns.length (cells.map String.toList)) := by
  induction more generalizing t rows
  case nil => simpa [Table.pushAll] using h
  case cons cells more hi =>
    have hi := hi (h.push cells)
    rw [List.append_assoc] at hi
    exact hi

theorem Holds.length_eq (h : t.Holds headers rows) {row : List (List Char)} (hr : row ∈ rows) :
    row.length = t.columns.length := by
  have hl := t.length_eq (row.map escapeCell) (h.body ▸ List.mem_map_of_mem hr)
  rwa [List.length_map] at hl

theorem length_widen {widths : List Nat} {row : List Cell} (h : row.length = widths.length) :
    (widen widths row).length = widths.length := by
  simp [widen, h]

theorem length_columnWidths (t : Table) : t.columnWidths.length = t.columns.length := by
  have hw (widths : List Nat) (rows : List (List Cell))
      (hr : ∀ row ∈ rows, row.length = widths.length) :
      (rows.foldl widen widths).length = widths.length := by
    induction rows generalizing widths
    case nil => rfl
    case cons row rows hi =>
      have ⟨hrow, hr⟩ := List.forall_mem_cons.mp hr
      have hl := length_widen hrow
      rw [List.foldl_cons, hi _ (hl ▸ hr), hl]
  rw [columnWidths, List.length_map, hw _ _ (by simpa using t.length_eq), List.length_map]

theorem length_layout (t : Table) : t.layout.length = t.columns.length := by
  simp [layout, length_columnWidths]

-- By induction on the layout.
theorem reads_zipWith {layout : List (Nat × Alignment)} {row : List (List Char)}
    (h : row.length = layout.length) :
    List.Forall₂ Reads
      (List.zipWith (fun (width, alignment) cell => pad width alignment cell) layout
        (row.map escapeCell))
      (row.map shown) := by
  induction layout generalizing row
  case nil => rw [List.length_eq_zero_iff.mp h]; exact .nil
  case cons next layout hi =>
    cases row
    case nil => cases h
    case cons cell row => exact .cons (reads_pad ..) (hi (Nat.succ.inj h))

theorem Holds.isRow_rowLine (h : t.Holds headers rows) {row : List (List Char)}
    (hr : row.length = t.columns.length) :
    IsRow (t.rowLine (row.map escapeCell)) (row.map shown) := by
  have hf := reads_zipWith (hr.trans t.length_layout.symm)
  refine isRow_rowText hf fun hn => h.nonempty ?_
  have hl := congrArg List.length hn
  rw [List.length_zipWith, List.length_map, hr, length_layout, Nat.min_self] at hl
  exact List.length_eq_zero_iff.mp hl

-- There is room for both colons and a dash.
theorem isRule_ruleCell {width : Nat} (h : 3 ≤ width) (alignment : Alignment) :
    isRule (ruleCell width alignment) = true := by
  obtain ⟨more, rfl⟩ := Nat.exists_eq_add_of_le' h
  cases alignment <;> simp [isRule, ruleCell, dashes, List.replicate_succ]

theorem reads_of_isRule {cell : Cell} (h : isRule cell = true) : Reads cell cell := by
  have hc (c : Char) (hm : c ∈ cell) : c = '-' ∨ c = ':' := by
    simp only [isRule, Bool.and_eq_true, List.all_eq_true, decide_eq_true_eq, Bool.or_eq_true] at h
    exact h.2 c hm
  refine reads_self (fun hm => ?_) (fun c hm => ?_)
  · rcases hc _ hm with hb | hb <;> cases hb
  · rcases hc _ hm with rfl | rfl <;> rfl

theorem Holds.isRow_ruleLine (h : t.Holds headers rows) :
    ∃ cells, IsRow t.ruleLine cells ∧ cells.all isRule = true := by
  have hr : ∀ cell ∈ t.layout.map (fun (width, alignment) => ruleCell width alignment),
      isRule cell = true := by
    intro cell hc
    obtain ⟨⟨width, alignment⟩, hl, rfl⟩ := List.mem_map.mp hc
    exact isRule_ruleCell (columnWidths_ge (List.of_mem_zip hl).1) alignment
  refine ⟨_, isRow_rowText (List.forall₂_same.mpr fun cell hc => reads_of_isRule (hr cell hc)) ?_,
    List.all_eq_true.mpr hr⟩
  intro hn
  rw [List.map_eq_nil_iff, ← List.length_eq_zero_iff, length_layout] at hn
  exact h.nonempty (List.length_eq_zero_iff.mp hn)

theorem mapM_of_forall₂ {α β : Type} {f : α → Option β} {xs : List α} {ys : List β}
    (h : List.Forall₂ (fun x y => f x = some y) xs ys) : xs.mapM f = some ys := by
  induction h
  case nil => rfl
  case cons hx _ hi => rw [List.mapM_cons, hx, hi]; rfl

-- What was put into a table is read from it.
theorem Holds.readRows_rendered (h : t.Holds headers rows) :
    readRows t.rendered = some (headers.map shown, rows.map (·.map shown)) := by
  have ⟨rule, hr, hall⟩ := h.isRow_ruleLine
  have hh : IsRow (t.rowLine (t.columns.map (·.header))) (headers.map shown) := by
    rw [h.head]
    refine h.isRow_rowLine ?_
    have hl := congrArg List.length h.head
    rw [List.length_map, List.length_map] at hl
    exact hl.symm
  have hb : List.Forall₂ IsRow (t.rows.map t.rowLine) (rows.map (·.map shown)) := by
    rw [h.body, List.map_map, List.forall₂_map_left_iff, List.forall₂_map_right_iff,
      List.forall₂_same]
    exact fun row hm => h.isRow_rowLine (h.length_eq hm)
  have hl : List.Forall₂ IsRow t.renderedLines
      (headers.map shown :: rule :: rows.map (·.map shown)) :=
    .cons hh (.cons hr hb)
  have ⟨hf, _⟩ := (List.forall₂_and_left _ _).mp (hl.imp fun _ _ hl => ⟨hl.flat, hl⟩)
  rw [readRows, rendered, Text.split_join (by simp [renderedLines]) hf,
    mapM_of_forall₂ (hl.imp fun _ _ hl => hl.read)]
  exact if_pos hall

-- A name may hold bars, and a backslash at its end.
example :
    readRow "| left\\|right\\ |  1/2 |".toList = some ["left|right\\".toList, "1/2".toList] := by
  decide +kernel

end Table
end Report
end CourseAudit
