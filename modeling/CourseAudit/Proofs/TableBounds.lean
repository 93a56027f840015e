import CourseAudit.Proofs.TableReading

/-!
Rendering a table with lookups and differences that can fail: the width of a column is looked up by
the number of the column, and a count of characters must not be negative. Main statement:
`Table.rendered?_eq` (none of them fails in a table whose rows are full).
-/
namespace CourseAudit.Report

/-! ### Steps that can fail -/

-- A count that must not be negative.
def minus? (n m : Nat) : Option Nat :=
  if m ≤ n then some (n - m) else none

def pad? (width : Nat) (alignment : Alignment) (cell : Cell) : Option (List Char) :=
  if width ≤ Unicode.width cell then some cell
  else do
    let missing ← minus? width (Unicode.width cell)
    match alignment with
    | .right => some (blanks missing ++ cell)
    | .center => do
      let behind ← minus? missing (missing / 2)
      some (blanks (missing / 2) ++ cell ++ blanks behind)
    | .none | .left => some (cell ++ blanks missing)

def ruleCell? (width : Nat) : Alignment → Option (List Char)
  | .none => some (dashes width)
  | .left => do
    let count ← minus? width 1
    some (':' :: dashes count)
  | .right => do
    let count ← minus? width 1
    some (dashes count ++ [':'])
  | .center => do
    let count ← minus? width 2
    some (':' :: dashes count ++ [':'])

namespace Table

-- Makes the column of a cell wide enough for the cell.
def widenColumn? (widths : List Nat) (cell : Cell × Nat) : Option (List Nat) := do
  let width ← widths[cell.2]?
  some (widths.set cell.2 (max width (Unicode.width cell.1)))

def widen? (widths : List Nat) (row : List Cell) : Option (List Nat) :=
  row.zipIdx.foldlM widenColumn? widths

def columnWidths? (t : Table) : Option (List Nat) := do
  let widths ← t.rows.foldlM widen? (t.columns.map (Unicode.width ·.header))
  some (widths.map (max 3))

def alignmentAt (t : Table) (i : Nat) : Alignment :=
  (t.columns[i]?.map (·.alignment)).getD .none

def cellText? (t : Table) (widths : List Nat) (cell : Cell × Nat) : Option (List Char) := do
  let width ← widths[cell.2]?
  pad? width (t.alignmentAt cell.2) cell.1

def ruleText? (t : Table) (cell : Nat × Nat) : Option (List Char) :=
  ruleCell? cell.1 (t.alignmentAt cell.2)

def rowLine? (t : Table) (widths : List Nat) (row : List Cell) : Option (List Char) := do
  let texts ← row.zipIdx.mapM (t.cellText? widths)
  some (rowText texts)

def ruleLine? (t : Table) (widths : List Nat) : Option (List Char) := do
  let texts ← widths.zipIdx.mapM t.ruleText?
  some (rowText texts)

def rendered? (t : Table) : Option (List Char) := do
  let widths ← t.columnWidths?
  let headers ← t.rowLine? widths (t.columns.map (·.header))
  let rule ← t.ruleLine? widths
  let body ← t.rows.mapM (t.rowLine? widths)
  some (Text.join ['\n'] (headers :: rule :: body))

end Table

/-! ### They do not fail -/

theorem minus?_of_le {n m : Nat} (h : m ≤ n) : minus? n m = some (n - m) :=
  if_pos h

theorem pad?_eq (width : Nat) (alignment : Alignment) (cell : Cell) :
    pad? width alignment cell = some (pad width alignment cell) := by
  rw [pad?]
  split
  case isTrue h =>
    have hm : width - Unicode.width cell = 0 := Nat.sub_eq_zero_of_le h
    cases alignment <;> simp [pad, hm, blanks]
  case isFalse h =>
    rw [minus?_of_le (Nat.le_of_not_le h)]
    cases alignment
    case center =>
      exact congrArg (Option.bind · _) (minus?_of_le (Nat.div_le_self _ _))
    all_goals rfl

theorem ruleCell?_eq {width : Nat} (h : 3 ≤ width) (alignment : Alignment) :
    ruleCell? width alignment = some (ruleCell width alignment) := by
  have h1 := minus?_of_le (Nat.le_trans (by decide : 1 ≤ 3) h)
  have h2 := minus?_of_le (Nat.le_trans (by decide : 2 ≤ 3) h)
  cases alignment <;> simp [ruleCell?, ruleCell, h1, h2]

namespace Table

theorem widenColumn?_eq (before : List Nat) (width : Nat) (widths : List Nat) (cell : Cell) :
    widenColumn? (before ++ width :: widths) (cell, before.length) =
      some (before ++ [max width (Unicode.width cell)] ++ widths) := by
  simp [widenColumn?]

-- By induction on the row, behind the columns that were widened before.
theorem widen?_eq {widths : List Nat} {row : List Cell} (h : row.length = widths.length) :
    widen? widths row = some (widen widths row) := by
  have hw (before : List Nat) : (row.zipIdx before.length).foldlM widenColumn? (before ++ widths) =
      some (before ++ widen widths row) := by
    induction row generalizing widths before
    case nil =>
      rw [List.length_eq_zero_iff.mp h.symm]
      rfl
    case cons cell row hi =>
      obtain ⟨width, widths, rfl⟩ := List.exists_cons_of_length_eq_add_one h.symm
      have hi := hi (Nat.succ.inj h) (before ++ [max width (Unicode.width cell)])
      rw [List.length_append, List.length_singleton, List.append_assoc _ _ (widen _ _)] at hi
      rw [List.zipIdx_cons, List.foldlM_cons, widenColumn?_eq]
      exact hi
  exact hw []

variable (t : Table)

theorem foldlM_widen? {rows : List (List Cell)} {widths : List Nat}
    (h : ∀ row ∈ rows, row.length = widths.length) :
    rows.foldlM widen? widths = some (rows.foldl widen widths) := by
  induction rows generalizing widths
  case nil => rfl
  case cons row rows hi =>
    have ⟨hr, h⟩ := List.forall_mem_cons.mp h
    rw [List.foldlM_cons, widen?_eq hr]
    exact hi (length_widen hr ▸ h)

theorem columnWidths?_eq : t.columnWidths? = some t.columnWidths := by
  rw [columnWidths?, foldlM_widen? (by simpa using t.length_eq)]
  rfl

variable {t} in
theorem getElem_layout {i : Nat} (h : i < t.layout.length) :
    t.columnWidths[i]? = some t.layout[i].1 ∧ t.alignmentAt i = t.layout[i].2 := by
  have hl : i < t.columnWidths.length ∧ i < t.columns.length := by
    simpa [layout, Nat.lt_min] using h
  simp [layout, alignmentAt, hl]

theorem rowLine?_eq {row : List Cell} (hr : row.length = t.columns.length) :
    t.rowLine? t.columnWidths row = some (t.rowLine row) := by
  have hl := hr.trans t.length_layout.symm
  have hm : row.zipIdx.mapM (t.cellText? t.columnWidths) =
      some (List.zipWith (fun place cell => pad place.1 place.2 cell) t.layout row) := by
    refine mapM_of_forall₂ (List.forall₂_iff_get.mpr ⟨by simp [hl], fun i hi _ => ?_⟩)
    have hi : i < row.length := by simpa using hi
    have ⟨hw, ha⟩ := getElem_layout (hl ▸ hi)
    simp [cellText?, hw, ha, pad?_eq]
  rw [rowLine?, hm]
  rfl

theorem ruleLine?_eq : t.ruleLine? t.columnWidths = some t.ruleLine := by
  have hl := t.length_columnWidths.trans t.length_layout.symm
  have hm : t.columnWidths.zipIdx.mapM t.ruleText? =
      some (t.layout.map fun place => ruleCell place.1 place.2) := by
    refine mapM_of_forall₂ (List.forall₂_iff_get.mpr ⟨by simp [hl], fun i hi _ => ?_⟩)
    have hi : i < t.columnWidths.length := by simpa using hi
    have ⟨hw, ha⟩ := getElem_layout (hl ▸ hi)
    rw [List.getElem?_eq_getElem hi, Option.some.injEq] at hw
    simp [ruleText?, ha, ← hw, ruleCell?_eq (columnWidths_ge (List.getElem_mem hi))]
  rw [ruleLine?, hm]
  rfl

-- No lookup leaves the table, and no count is negative.
theorem rendered?_eq : t.rendered? = some t.rendered := by
  have hb : t.rows.mapM (t.rowLine? t.columnWidths) = some (t.rows.map t.rowLine) :=
    mapM_of_forall₂ (List.forall₂_map_right_iff.mpr (List.forall₂_same.mpr
      fun row hm => t.rowLine?_eq (t.length_eq row hm)))
  rw [rendered?, columnWidths?_eq]
  simp only [Option.bind_eq_bind, Option.bind_some, t.rowLine?_eq (List.length_map _),
    ruleLine?_eq, hb]
  rfl

end Table
end CourseAudit.Report
