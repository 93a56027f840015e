import CourseAudit.Text.Split
import CourseAudit.Unicode.Width

/-!
Markdown tables whose columns line up where the text is shown in columns of one width.

Main statement: `columnWidths_ge` (a column is never narrower than three, which the marks of a
centered column need).
-/
namespace CourseAudit.Report

inductive Alignment where
  | none
  | left
  | center
  | right
  deriving DecidableEq, Repr

structure Column where
  header : List Char
  alignment : Alignment
  deriving DecidableEq, Repr

abbrev Cell := List Char

-- A pipe would end the cell, and a newline the row.
def escapeCell (cell : List Char) : Cell :=
  Text.replaceChar '\n' [' '] (Text.replaceChar '|' ['\\', '|'] cell)

-- Exactly `count` cells: cells beyond are dropped, and missing ones are empty.
def fitRow : Nat → List Cell → List Cell
  | 0, _ => []
  | count + 1, [] => [] :: fitRow count []
  | count + 1, cell :: rest => cell :: fitRow count rest

@[simp]
theorem length_fitRow (count : Nat) (cells : List Cell) : (fitRow count cells).length = count := by
  fun_induction fitRow count cells <;> simp_all

@[ext]
structure Table where
  columns : List Column
  rows : List (List Cell)
  length_eq : ∀ row ∈ rows, row.length = columns.length
  deriving DecidableEq, Repr

def blanks (count : Nat) : List Char :=
  List.replicate count ' '

def dashes (count : Nat) : List Char :=
  List.replicate count '-'

-- Fills a cell up to a width. Of an odd number of blanks around a centered cell, more stand behind.
def pad (width : Nat) (alignment : Alignment) (cell : Cell) : List Char :=
  let missing := width - Unicode.width cell
  match alignment with
  | .right => blanks missing ++ cell
  | .center => blanks (missing / 2) ++ cell ++ blanks (missing - missing / 2)
  | .none | .left => cell ++ blanks missing

-- A cell of the line below the headers, where colons tell the alignment.
def ruleCell (width : Nat) : Alignment → List Char
  | .none => dashes width
  | .left => ':' :: dashes (width - 1)
  | .right => dashes (width - 1) ++ [':']
  | .center => ':' :: dashes (width - 2) ++ [':']

def rowText (cells : List (List Char)) : List Char :=
  ['|', ' '] ++ Text.join [' ', '|', ' '] cells ++ [' ', '|']

namespace Table

def ofColumns (columns : List (String × Alignment)) : Table :=
  ⟨columns.map fun (header, alignment) => ⟨header.toList, alignment⟩, [], List.forall_mem_nil _⟩

def push (t : Table) (cells : List String) : Table where
  columns   := t.columns
  rows      :=
    t.rows ++ [fitRow t.columns.length (cells.map fun cell => escapeCell cell.toList)]
  length_eq := List.forall_mem_append.mpr
    ⟨t.length_eq, List.forall_mem_singleton.mpr (length_fitRow _ _)⟩

def pushAll (t : Table) (rows : List (List String)) : Table :=
  rows.foldl push t

def isEmpty (t : Table) : Bool :=
  t.rows.isEmpty

def widen (widths : List Nat) (row : List Cell) : List Nat :=
  List.zipWith (fun width cell => max width (Unicode.width cell)) widths row

-- Each column is as wide as its widest cell, and at least three.
def columnWidths (t : Table) : List Nat :=
  (t.rows.foldl widen (t.columns.map (Unicode.width ·.header))).map (max 3)

theorem columnWidths_ge {t : Table} {width : Nat} (h : width ∈ t.columnWidths) : 3 ≤ width := by
  obtain ⟨w, _, rfl⟩ := List.mem_map.1 h
  exact Nat.le_max_left ..

def layout (t : Table) : List (Nat × Alignment) :=
  t.columnWidths.zip (t.columns.map (·.alignment))

def rowLine (t : Table) (row : List Cell) : List Char :=
  rowText (List.zipWith (fun (width, alignment) cell => pad width alignment cell) t.layout row)

def ruleLine (t : Table) : List Char :=
  rowText (t.layout.map fun (width, alignment) => ruleCell width alignment)

def renderedLines (t : Table) : List (List Char) :=
  t.rowLine (t.columns.map (·.header)) :: t.ruleLine :: t.rows.map t.rowLine

def rendered (t : Table) : List Char :=
  Text.join ['\n'] t.renderedLines

-- One line a row, without a newline behind the last.
def render (t : Table) : String :=
  String.ofList t.rendered

end Table
end CourseAudit.Report
