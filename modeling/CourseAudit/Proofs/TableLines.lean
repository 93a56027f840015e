import Mathlib.Data.List.Forall2
import CourseAudit.Proofs.Columns
import CourseAudit.Proofs.TableReading

/-!
The lines of a Markdown table: each cell fills its column, so all lines are equally wide where they
are shown. Main statement: `Table.pushAll_linesUp`.
-/
namespace CourseAudit.Report

/-! ### Widths of padded cells and lines -/

theorem width_append_blanks (text : List Char) (count : Nat) :
    Unicode.width (text ++ blanks count) = Unicode.width text + count := by
  induction count
  case zero => rw [blanks, List.replicate_zero, List.append_nil, Nat.add_zero]
  case succ count hi =>
    have hb : text ++ blanks (count + 1) = text ++ blanks count ++ ' ' :: [] := by
      rw [blanks, List.replicate_succ', ← List.append_assoc]
      rfl
    rw [hb, Unicode.width_append_blank, hi]
    rfl

theorem width_blanks_append (text : List Char) (count : Nat) :
    Unicode.width (blanks count ++ text) = count + Unicode.width text := by
  induction count
  case zero => exact (Nat.zero_add _).symm
  case succ count hi =>
    have hb := Unicode.width_append_blank [] (blanks count ++ text)
    rw [show Unicode.width [] = 0 from rfl, hi] at hb
    exact hb.trans (by omega)

-- A text that is too wide stays as it is.
theorem width_pad (width : Nat) (alignment : Alignment) (text : List Char) :
    Unicode.width (pad width alignment text) = max width (Unicode.width text) := by
  cases alignment <;>
    simp only [pad, width_append_blanks, width_blanks_append] <;> omega

-- The colons in the line below the headers.
def Alignment.colons : Alignment → Nat
  | .none => 0
  | .left | .right => 1
  | .center => 2

-- A cell of the line below the headers takes as many columns as it has characters, and what the
-- colons leave is dashes.
structure Fills (width : Nat) (alignment : Alignment) (cell : List Char) : Prop where
  length : cell.length = width
  columns : Unicode.width cell = width
  colons : cell.count ':' = alignment.colons
  dashes : cell.count '-' + alignment.colons = width

theorem fills_ruleCell {width : Nat} (h : 3 ≤ width) (alignment : Alignment) :
    Fills width alignment (ruleCell width alignment) := by
  have hl : (ruleCell width alignment).length = width := by
    cases alignment <;> simp [ruleCell, dashes] <;> omega
  have ha : ∀ c ∈ ruleCell width alignment, ' ' ≤ c ∧ c ≤ '~' := by
    intro c hc
    have hc : c = ':' ∨ c = '-' := by
      cases alignment <;> simp [ruleCell, dashes] at hc <;> tauto
    rcases hc with rfl | rfl <;> decide
  refine ⟨hl, (Unicode.width_of_ascii ha).trans hl, ?_, ?_⟩ <;>
    cases alignment <;> simp [ruleCell, dashes, Alignment.colons, List.count_replicate] <;> omega

-- The columns that a line takes when its cells take these: three between two cells, and two at
-- either end.
def lineWidth (widths : List Nat) : Nat :=
  4 + widths.foldr (· + ·) 0 + 3 * (widths.length - 1)

theorem width_rowText (texts : List (List Char)) :
    Unicode.width (rowText texts) = lineWidth (texts.map Unicode.width) := by
  have hb : Unicode.width ['|'] = 1 :=
    Unicode.width_of_ascii (List.forall_mem_singleton.mpr (by decide))
  have hj : Unicode.width (Text.join [' ', '|', ' '] texts) =
      (texts.map Unicode.width).foldr (· + ·) 0 + 3 * (texts.length - 1) := by
    induction texts
    case nil => rfl
    case cons text rest hi =>
      cases rest
      case nil => simp [Text.join]
      case cons next rest =>
        have hs : text ++ [' ', '|', ' '] ++ Text.join [' ', '|', ' '] (next :: rest) =
            text ++ ' ' :: (['|'] ++ ' ' :: Text.join [' ', '|', ' '] (next :: rest)) := by simp
        rw [Text.join_cons_cons, hs, Unicode.width_append_blank, Unicode.width_append_blank, hb, hi]
        simp only [List.map_cons, List.foldr_cons, List.length_cons]
        omega
  have he : rowText texts = ['|'] ++ ' ' :: (Text.join [' ', '|', ' '] texts ++ ' ' :: ['|']) := by
    simp [rowText]
  rw [he, Unicode.width_append_blank, Unicode.width_append_blank, hb, hj, lineWidth,
    List.length_map]
  omega

namespace Table

/-! ### What a table is made of -/

variable (columns : List (String × Alignment)) (rows : List (List String))

-- What a row shows in a column.
def cellIn (row : List String) (i : Nat) : Cell :=
  escapeCell (row.getD i "").toList

-- The texts that have to find room in a column.
def textsIn (i : Nat) : List (List Char) :=
  (columns[i]?.map (·.1.toList)).toList ++ rows.map (cellIn · i)

-- The width of the widest of the texts, or three.
def widthIn (i : Nat) : Nat :=
  ((textsIn columns rows i).map Unicode.width).foldl max 3

theorem fitRow_eq (count : Nat) (cells : List Cell) :
    fitRow count cells = (List.range count).map (cells.getD · []) := by
  induction count generalizing cells
  case zero => cases cells <;> rfl
  case succ count hi =>
    rw [List.range_succ_eq_map, List.map_cons, List.map_map]
    cases cells
    case nil => exact congrArg ([] :: ·) (hi [])
    case cons cell rest => exact congrArg (cell :: ·) (hi rest)

theorem fitRow_escapeCell (count : Nat) (row : List String) :
    fitRow count (row.map fun cell => escapeCell cell.toList) =
      (List.range count).map (cellIn row) := by
  rw [fitRow_eq]
  refine List.map_congr_left fun i _ => ?_
  rw [cellIn, List.getD_eq_getElem?_getD, List.getD_eq_getElem?_getD, List.getElem?_map]
  cases row[i]? <;> rfl

theorem rows_push (t : Table) (row : List String) :
    (t.push row).rows = t.rows ++ [(List.range t.columns.length).map (cellIn row)] :=
  congrArg (t.rows ++ [·]) (fitRow_escapeCell _ row)

theorem rows_pushAll (t : Table) :
    (t.pushAll rows).rows =
      t.rows ++ rows.map fun row => (List.range t.columns.length).map (cellIn row) := by
  induction rows generalizing t
  case nil => exact (List.append_nil _).symm
  case cons row rows hi =>
    refine (hi (t.push row)).trans ?_
    rw [rows_push, List.append_assoc]
    rfl

-- By induction on the rows: each of them widens the columns.
theorem foldl_widen (count : Nat) (width : Nat → Nat) :
    (rows.map fun row => (List.range count).map (cellIn row)).foldl widen
        ((List.range count).map width) =
      (List.range count).map fun i =>
        (rows.map fun row => Unicode.width (cellIn row i)).foldl max (width i) := by
  induction rows generalizing width
  case nil => rfl
  case cons row rows hi =>
    have hw : widen ((List.range count).map width) ((List.range count).map (cellIn row)) =
        (List.range count).map fun i => max (width i) (Unicode.width (cellIn row i)) := by
      rw [widen, List.zipWith_map, List.zipWith_self]
    rw [List.map_cons, List.foldl_cons, hw, hi]
    rfl

theorem widthIn_eq {i : Nat} {column : String × Alignment} (h : columns[i]? = some column) :
    widthIn columns rows i =
      max 3 ((rows.map fun row => Unicode.width (cellIn row i)).foldl max
        (Unicode.width column.1.toList)) := by
  have ht : (textsIn columns rows i).map Unicode.width =
      Unicode.width column.1.toList :: rows.map fun row => Unicode.width (cellIn row i) := by
    rw [textsIn, h, List.map_append, List.map_map]
    rfl
  rw [widthIn, ht, List.foldl_cons, List.foldl_assoc]

theorem columnWidths_pushAll :
    ((ofColumns columns).pushAll rows).columnWidths =
      (List.range columns.length).map (widthIn columns rows) := by
  have hc : columns.map (fun column => Unicode.width column.1.toList) =
      (List.range columns.length).map fun i =>
        (columns[i]?.map fun column => Unicode.width column.1.toList).getD 0 := by
    refine List.ext_getElem (by simp) fun i hi _ => ?_
    have hi : i < columns.length := by simpa using hi
    simp [hi]
  have hl : ((ofColumns columns).columns.map (Unicode.width ·.header)) =
      columns.map fun column => Unicode.width column.1.toList := by
    simp [ofColumns, Function.comp_def]
  have hr : (ofColumns columns).columns.length = columns.length := by simp [ofColumns]
  rw [columnWidths, columns_pushAll, rows_pushAll, hl, hc, hr]
  refine (congrArg (List.map (max 3)) (foldl_widen rows columns.length _)).trans ?_
  rw [List.map_map]
  refine List.map_congr_left fun i hi => ?_
  have hi := List.getElem?_eq_getElem (List.mem_range.mp hi)
  rw [widthIn_eq columns rows hi, Function.comp_apply, hi]
  rfl

theorem layout_pushAll :
    ((ofColumns columns).pushAll rows).layout =
      columns.mapIdx fun i column => (widthIn columns rows i, column.2) := by
  rw [layout, columnWidths_pushAll, columns_pushAll]
  refine List.ext_getElem (by simp [ofColumns]) fun i _ _ => ?_
  simp [ofColumns]

-- The cells of the lines, as they are printed.
def grid : List (List (List Char)) :=
  (columns.mapIdx fun i column => pad (widthIn columns rows i) column.2 column.1.toList) ::
  (columns.mapIdx fun i column => ruleCell (widthIn columns rows i) column.2) ::
  rows.map fun row =>
    columns.mapIdx fun i column => pad (widthIn columns rows i) column.2 (cellIn row i)

theorem renderedLines_pushAll :
    ((ofColumns columns).pushAll rows).renderedLines = (grid columns rows).map rowText := by
  have hr : (ofColumns columns).columns.length = columns.length := by simp [ofColumns]
  rw [renderedLines, rows_pushAll, columns_pushAll, grid, List.map_cons, List.map_cons]
  congr 1
  · rw [rowLine, layout_pushAll]
    refine congrArg rowText (List.ext_getElem (by simp [ofColumns]) fun i _ _ => ?_)
    simp [ofColumns]
  · congr 1
    · rw [ruleLine, layout_pushAll]
      refine congrArg rowText (List.ext_getElem (by simp) fun i _ _ => ?_)
      simp
    · rw [show (ofColumns columns).rows = [] from rfl, List.nil_append, List.map_map, List.map_map]
      refine List.map_congr_left fun row _ => ?_
      rw [Function.comp_apply, Function.comp_apply, rowLine, layout_pushAll, hr]
      refine congrArg rowText (List.ext_getElem (by simp) fun i _ _ => ?_)
      simp

/-! ### The lines -/

variable {columns rows}

-- The least width that is enough for the marks of a column and for its texts.
theorem widthIn_le_iff {i width : Nat} :
    widthIn columns rows i ≤ width ↔
      3 ≤ width ∧ ∀ text ∈ textsIn columns rows i, Unicode.width text ≤ width := by
  have hf (widths : List Nat) (least : Nat) :
      widths.foldl max least ≤ width ↔ least ≤ width ∧ ∀ w ∈ widths, w ≤ width := by
    induction widths generalizing least
    case nil => simp
    case cons w widths hi =>
      rw [List.foldl_cons, hi, Nat.max_le, List.forall_mem_cons, and_assoc]
  rw [widthIn, hf, List.forall_mem_map]

theorem three_le_widthIn (i : Nat) : 3 ≤ widthIn columns rows i :=
  (widthIn_le_iff.mp (Nat.le_refl _)).1

-- A text of a column fills it.
theorem width_pad_of_mem {i : Nat} {text : List Char} (h : text ∈ textsIn columns rows i)
    (alignment : Alignment) :
    Unicode.width (pad (widthIn columns rows i) alignment text) = widthIn columns rows i := by
  rw [width_pad, Nat.max_eq_left ((widthIn_le_iff.mp (Nat.le_refl _)).2 text h)]

theorem header_mem_textsIn {i : Nat} (h : i < columns.length) :
    columns[i].1.toList ∈ textsIn columns rows i := by
  simp [textsIn, h]

theorem cellIn_mem_textsIn {row : List String} (h : row ∈ rows) (i : Nat) :
    cellIn row i ∈ textsIn columns rows i :=
  List.mem_append_right _ (List.mem_map_of_mem h)

-- What can be said of one cell of each line, in any column, holds of all cells of a table.
theorem forall_mem_grid {P : Nat → List Char → Prop}
    (hh : ∀ i (h : i < columns.length),
      P i (pad (widthIn columns rows i) columns[i].2 columns[i].1.toList))
    (hr : ∀ i (h : i < columns.length), P i (ruleCell (widthIn columns rows i) columns[i].2))
    (hb : ∀ row ∈ rows, ∀ i (h : i < columns.length),
      P i (pad (widthIn columns rows i) columns[i].2 (cellIn row i)))
    {cells : List (List Char)} (hc : cells ∈ grid columns rows) :
    cells.length = columns.length ∧ ∀ i (h : i < cells.length), P i cells[i] := by
  rw [grid, List.mem_cons, List.mem_cons, List.mem_map] at hc
  rcases hc with rfl | rfl | ⟨row, hm, rfl⟩
  all_goals
    refine ⟨List.length_mapIdx, fun i h => ?_⟩
    rw [List.length_mapIdx] at h
    rw [List.getElem_mapIdx]
  · exact hh i h
  · exact hr i h
  · exact hb row hm i h

theorem widths_of_mem_grid {cells : List (List Char)} (h : cells ∈ grid columns rows) :
    cells.map Unicode.width = (List.range columns.length).map (widthIn columns rows) := by
  have ⟨hl, hw⟩ := forall_mem_grid
    (P := fun i cell => Unicode.width cell = widthIn columns rows i)
    (fun i h => width_pad_of_mem (header_mem_textsIn h) _)
    (fun i _ => (fills_ruleCell (three_le_widthIn i) _).columns)
    (fun row hm i _ => width_pad_of_mem (cellIn_mem_textsIn hm i) _) h
  refine List.ext_getElem (by simp [hl]) fun i hi _ => ?_
  rw [List.getElem_map, List.getElem_map, List.getElem_range]
  exact hw i (by simpa using hi)

theorem not_mem_pad {text : List Char} (h : '\n' ∉ text) (width : Nat) (alignment : Alignment) :
    '\n' ∉ pad width alignment text := by
  have hb (count : Nat) : '\n' ∉ blanks count := not_mem_blanks (by decide) count
  cases alignment <;> simp [pad, h, hb]

theorem flat_of_mem_grid (hn : ∀ column ∈ columns, '\n' ∉ column.1.toList)
    {cells : List (List Char)} (h : cells ∈ grid columns rows) :
    ∀ cell ∈ cells, '\n' ∉ cell := by
  have ⟨_, hf⟩ := forall_mem_grid (P := fun _ cell => '\n' ∉ cell)
    (fun i h => not_mem_pad (hn _ (List.getElem_mem h)) _ _)
    (fun i _ => (reads_of_isRule (isRule_ruleCell (three_le_widthIn i) _)).flat)
    (fun row _ i _ => not_mem_pad (not_mem_escapeCell _) _ _) h
  intro cell hc
  obtain ⟨i, hi, rfl⟩ := List.getElem_of_mem hc
  exact hf i hi

theorem split_render (hn : ∀ column ∈ columns, '\n' ∉ column.1.toList) :
    Text.split '\n' ((ofColumns columns).pushAll rows).render.toList =
      (grid columns rows).map rowText := by
  rw [render, String.toList_ofList, rendered, renderedLines_pushAll]
  refine Text.split_join (by simp [grid]) fun line hm => ?_
  obtain ⟨cells, hc, rfl⟩ := List.mem_map.mp hm
  exact not_mem_rowText (flat_of_mem_grid hn hc)

-- How a table is shown: a line of headers, the line below it, and a line for each row. All lines
-- are equally wide, because in each of them a cell is as wide as its column. The cells of the line
-- below the headers are long enough for their colons.
structure LinesUp (t : Table) (columns : List (String × Alignment)) (rows : List (List String)) :
    Prop where
  lines : Text.split '\n' t.render.toList = (grid columns rows).map rowText
  alike : ∀ line ∈ Text.split '\n' t.render.toList,
    Unicode.width line = lineWidth ((List.range columns.length).map (widthIn columns rows))
  cells : ∀ i alignment, ∀ text ∈ textsIn columns rows i,
    Unicode.width (pad (widthIn columns rows i) alignment text) = widthIn columns rows i
  rules : ∀ i alignment,
    Fills (widthIn columns rows i) alignment (ruleCell (widthIn columns rows i) alignment)

theorem pushAll_linesUp (columns : List (String × Alignment)) (rows : List (List String))
    (hn : ∀ column ∈ columns, '\n' ∉ column.1.toList) :
    ((ofColumns columns).pushAll rows).LinesUp columns rows where
  lines := split_render hn
  alike := by
    intro line hm
    rw [split_render hn] at hm
    obtain ⟨cells, hc, rfl⟩ := List.mem_map.mp hm
    rw [width_rowText, widths_of_mem_grid hc]
  cells _ alignment _ hm := width_pad_of_mem hm alignment
  rules i alignment := fills_ruleCell (three_le_widthIn i) alignment

end Table
end CourseAudit.Report

namespace CourseAudit.Sample

open Report

def verdictColumns : List (String × Report.Alignment) :=
  [("Name", .left), ("Checks", .center), ("Result", .none)]

-- A row without its last cell, and a cell with a bar, which takes two characters.
def verdictRows : List (List String) :=
  [["pool|queue", "1/2"], ["lock", "3", "ok"]]

theorem verdicts_line_up :
    (∀ column ∈ verdictColumns, '\n' ∉ column.1.toList) ∧
    ((Table.ofColumns verdictColumns).pushAll verdictRows).LinesUp verdictColumns verdictRows ∧
    ((Table.ofColumns verdictColumns).pushAll verdictRows).render =
      "| Name        | Checks | Result |\n" ++
      "| :---------- | :----: | ------ |\n" ++
      "| pool\\|queue |  1/2   |        |\n" ++
      "| lock        |   3    | ok     |" := by
  have hn : ∀ column ∈ verdictColumns, '\n' ∉ column.1.toList := by decide
  refine ⟨hn, Table.pushAll_linesUp _ _ hn, ?_⟩
  decide +kernel

end CourseAudit.Sample
