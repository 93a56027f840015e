import CourseAudit.Proofs.TableBounds
import CourseAudit.Proofs.TableLines

/-!
The cells of a Markdown table in its text. A line is cut at the bars that do not stand right behind
a backslash, and each piece but the first and the last is a cell, with blanks around it and a
backslash in front of each bar. Main statement: `Table.pushAll_readsBack`.
-/
namespace CourseAudit.Report

/-! ### Reading a line -/

-- The pieces between the bars that do not stand right behind a backslash. The flag tells whether
-- a backslash stands in front of the text.
def cutBars (escaped : Bool) : List Char → List (List Char)
  | [] => [[]]
  | c :: rest =>
    if c = '|' ∧ escaped = false then [] :: cutBars false rest
    else prepend c (cutBars (c = '\\') rest)

-- A bar and the backslash in front of it are read as a bar.
def unescape : List Char → List Char
  | [] => []
  | '\\' :: '|' :: rest => '|' :: unescape rest
  | c :: rest => c :: unescape rest

def stripSpaces (text : List Char) : List Char :=
  Text.strip (· = ' ') text

/-! ### Escaped texts -/

def escapeBars (text : List Char) : List Char :=
  Text.replaceChar '|' ['\\', '|'] text

-- A text on one line.
def flatten (text : List Char) : List Char :=
  Text.replaceChar '\n' [' '] text

@[simp]
theorem escapeBars_nil : escapeBars [] = [] :=
  rfl

theorem escapeBars_append (text rest : List Char) :
    escapeBars (text ++ rest) = escapeBars text ++ escapeBars rest :=
  List.flatMap_append

@[simp]
theorem escapeBars_bar (text : List Char) :
    escapeBars ('|' :: text) = '\\' :: '|' :: escapeBars text :=
  rfl

theorem escapeBars_cons {c : Char} (h : c ≠ '|') (text : List Char) :
    escapeBars (c :: text) = c :: escapeBars text := by
  rw [escapeBars, Text.replaceChar, List.flatMap_cons, if_neg h]
  rfl

theorem escapeBars_blanks (count : Nat) : escapeBars (blanks count) = blanks count :=
  Text.replaceChar_of_not_mem (not_mem_blanks (by decide) count) _

-- The order in which bars and newlines are replaced makes no difference.
theorem escapeCell_eq (cell : List Char) : escapeCell cell = escapeBars (flatten cell) := by
  induction cell
  case nil => rfl
  case cons c cell hi =>
    have hf : flatten (c :: cell) = (if c = '\n' then [' '] else [c]) ++ flatten cell := by
      rw [flatten, Text.replaceChar, List.flatMap_cons]
      rfl
    rw [escapeCell_cons, hi, hf, escapeBars_append]
    congr 1
    by_cases hb : c = '|'
    case pos => subst hb; rfl
    case neg =>
      rw [if_neg hb]
      split
      case isTrue => rfl
      case isFalse => exact (escapeBars_cons hb []).symm

theorem head?_escapeBars_ne (text : List Char) : (escapeBars text).head? ≠ some '|' := by
  cases text
  case nil => nofun
  case cons c text =>
    by_cases hb : c = '|'
    case pos => subst hb; simp
    case neg => simp [escapeBars_cons hb, hb]

-- By induction on the text. What a backslash stands in front of is no bar, because each bar of the
-- text got a backslash of its own.
theorem unescape_escapeBars (text : List Char) : unescape (escapeBars text) = text := by
  induction text
  case nil => rfl
  case cons c text hi =>
    by_cases hb : c = '|'
    case pos =>
      subst hb
      exact congrArg ('|' :: ·) hi
    case neg =>
      rw [escapeBars_cons hb, unescape.eq_3, hi]
      rintro rest rfl hr
      exact head?_escapeBars_ne text (by rw [hr]; rfl)

-- Spaces at the ends are no part of an escape.
theorem stripSpaces_escapeBars (text : List Char) :
    stripSpaces (escapeBars text) = escapeBars (stripSpaces text) := by
  have hf (text : List Char) :
      (escapeBars text).dropWhile (· = ' ') = escapeBars (text.dropWhile (· = ' ')) := by
    induction text
    case nil => rfl
    case cons c text hi =>
      by_cases hb : c = '|'
      case pos => subst hb; rfl
      case neg =>
        rw [escapeBars_cons hb, List.dropWhile_cons, List.dropWhile_cons, hi]
        split
        case isTrue => rfl
        case isFalse => exact (escapeBars_cons hb text).symm
  have hb (text : List Char) :
      ((escapeBars text).reverse.dropWhile (· = ' ')).reverse =
        escapeBars (text.reverse.dropWhile (· = ' ')).reverse := by
    induction text using List.reverseRecOn
    case nil => rfl
    case append_singleton text c hi =>
      by_cases hb : c = '|'
      case pos => subst hb; simp [escapeBars_append]
      case neg =>
        have hc := escapeBars_cons hb []
        rw [escapeBars_append, hc, List.reverse_append, List.reverse_append]
        simp only [escapeBars_nil, List.reverse_singleton, List.singleton_append,
          List.dropWhile_cons]
        split
        case isTrue => exact hi
        case isFalse => simp [escapeBars_append, hc]
  rw [stripSpaces, Text.strip, hf, hb]
  rfl

theorem stripSpaces_append (before behind : Nat) (text : List Char) :
    stripSpaces (blanks before ++ text ++ blanks behind) = stripSpaces text := by
  have hs (count : Nat) : ∀ c ∈ blanks count, decide (c = ' ') = true :=
    fun c hc => decide_eq_true (List.eq_of_mem_replicate hc)
  exact Text.strip_append (hs before) (hs behind) text

-- By induction on the text, whatever stands in front of it.
theorem cutBars_escapeBars (text rest : List Char) (escaped : Bool) :
    cutBars escaped (escapeBars text ++ ' ' :: rest) =
      (escapeBars text).foldr prepend (cutBars false (' ' :: rest)) := by
  induction text generalizing escaped
  case nil => rfl
  case cons c text hi =>
    by_cases hb : c = '|'
    case pos =>
      subst hb
      rw [escapeBars_bar, List.cons_append, List.cons_append, cutBars, if_neg (by simp), cutBars,
        if_neg (by simp), hi]
      rfl
    case neg =>
      rw [escapeBars_cons hb, List.cons_append, cutBars, if_neg fun h => hb h.1, hi]
      rfl

/-! ### Cells and lines -/

-- A padded cell is a text whose bars are escaped.
theorem exists_pad_eq (width : Nat) (alignment : Alignment) (cell : List Char) :
    ∃ text, pad width alignment (escapeCell cell) = escapeBars text ∧
      stripSpaces text = stripSpaces (flatten cell) := by
  have he (before behind : Nat) : ∃ text,
      blanks before ++ escapeCell cell ++ blanks behind = escapeBars text ∧
        stripSpaces text = stripSpaces (flatten cell) := by
    refine ⟨blanks before ++ flatten cell ++ blanks behind, ?_, stripSpaces_append _ _ _⟩
    rw [escapeBars_append, escapeBars_append, escapeBars_blanks, escapeBars_blanks, escapeCell_eq]
  cases alignment
  case right =>
    have hr := he (width - Unicode.width (escapeCell cell)) 0
    rwa [show blanks 0 = [] from rfl, List.append_nil] at hr
  case center => exact he _ _
  all_goals exact he 0 _

-- What stands between two bars.
def piece (text : List Char) : List Char :=
  ' ' :: text ++ [' ']

-- What a piece shows is what the text shows, as an escape does not begin or end with a blank.
theorem unescape_piece (text : List Char) :
    unescape (stripSpaces (piece (escapeBars text))) = stripSpaces text := by
  have hs : stripSpaces (piece (escapeBars text)) = stripSpaces (escapeBars text) :=
    stripSpaces_append 1 1 (escapeBars text)
  rw [hs, stripSpaces_escapeBars, unescape_escapeBars]

theorem cutBars_piece (text rest : List Char) :
    cutBars false (piece (escapeBars text) ++ '|' :: rest) =
      piece (escapeBars text) :: cutBars false rest := by
  have hc := cutBars_escapeBars (' ' :: text) ('|' :: rest) false
  have hb : cutBars false (' ' :: '|' :: rest) = [' '] :: cutBars false rest := rfl
  rw [hb, foldr_prepend, escapeBars_cons (by decide)] at hc
  simpa [piece] using hc

theorem cutBars_rowText {texts : List (List Char)} (hne : texts ≠ [])
    (h : ∀ text ∈ texts, ∃ inner, text = escapeBars inner) :
    cutBars false (rowText texts) = [] :: (texts.map piece ++ [[]]) := by
  have hp : cutBars false (texts.flatMap fun text => ' ' :: text ++ [' ', '|']) =
      texts.map piece ++ [[]] := by
    clear hne
    induction texts
    case nil => rfl
    case cons text rest hi =>
      have ⟨⟨inner, ht⟩, hr⟩ := List.forall_mem_cons.mp h
      have hc := cutBars_piece inner (rest.flatMap fun text => ' ' :: text ++ [' ', '|'])
      rw [hi hr, ← ht] at hc
      rw [List.flatMap_cons]
      simpa [piece] using hc
  rw [rowText_eq hne]
  exact congrArg ([] :: ·) hp

namespace Table

-- What a cell shows once it is read: the text that was put into it, on one line.
theorem unescape_pad_cellIn (width : Nat) (alignment : Alignment) (row : List String) (i : Nat) :
    unescape (stripSpaces (piece (pad width alignment (cellIn row i)))) =
      stripSpaces (flatten (row.getD i "").toList) := by
  have ⟨text, hp, hs⟩ := exists_pad_eq width alignment (row.getD i "").toList
  rw [cellIn, hp, unescape_piece, hs]

-- The first cells are all that a row needs.
theorem pushAll_take (t : Table) (rows : List (List String)) :
    t.pushAll (rows.map (·.take t.columns.length)) = t.pushAll rows := by
  have hc (row : List String) {i : Nat} (h : i < t.columns.length) :
      cellIn (row.take t.columns.length) i = cellIn row i := by
    simp [cellIn, h]
  refine Table.ext (by rw [columns_pushAll, columns_pushAll]) ?_
  rw [rows_pushAll, rows_pushAll, List.map_map]
  congr 1
  exact List.map_congr_left fun row _ =>
    List.map_congr_left fun i hi => hc row (List.mem_range.mp hi)

-- What can be read from the text of a table. There is a line for each row, behind the lines of the
-- headers; between its first and its last bar stand the cells of the row, with blanks for newlines,
-- up to blanks around them.
structure ReadsBack (t : Table) (columns : List (String × Alignment)) (rows : List (List String)) :
    Prop where
  lines   : (Text.split '\n' t.render.toList).length = rows.length + 2
  cells   : ∀ k row, rows[k]? = some row → ∃ line pieces,
    (Text.split '\n' t.render.toList)[k + 2]? = some line ∧
    cutBars false line = [] :: (pieces ++ [[]]) ∧
    pieces.length = columns.length ∧
    ∀ i text, pieces[i]? = some text →
      unescape (stripSpaces text) = stripSpaces (flatten (row.getD i "").toList)
  beyond  : (ofColumns columns).pushAll (rows.map (·.take columns.length)) = t
  checked : t.rendered? = some t.render.toList

theorem pushAll_readsBack (columns : List (String × Alignment)) (rows : List (List String))
    (hne : columns ≠ []) (hn : ∀ column ∈ columns, '\n' ∉ column.1.toList) :
    ((ofColumns columns).pushAll rows).ReadsBack columns rows where
  lines := by simp [split_render hn, grid]
  cells := by
    intro k row hr
    let texts := columns.mapIdx fun i column =>
      pad (widthIn columns rows i) column.2 (cellIn row i)
    have he : ∀ text ∈ texts, ∃ inner, text = escapeBars inner := by
      intro text ht
      obtain ⟨i, _, rfl⟩ := List.mem_mapIdx.mp ht
      exact (exists_pad_eq _ _ _).imp fun _ hp => hp.1
    refine ⟨rowText texts, texts.map piece, ?_, cutBars_rowText ?_ he, ?_, fun i text ht => ?_⟩
    · simp [split_render hn, grid, hr, texts]
    · simpa [texts] using hne
    · simp [texts]
    · simp only [texts, List.getElem?_map, List.getElem?_mapIdx, Option.map_eq_some_iff] at ht
      obtain ⟨_, ⟨column, _, rfl⟩, rfl⟩ := ht
      exact unescape_pad_cellIn ..
  beyond := by
    have ht := pushAll_take (ofColumns columns) rows
    rwa [show (ofColumns columns).columns.length = columns.length from List.length_map _] at ht
  checked := by rw [rendered?_eq, render, String.toList_ofList]

end Table
end CourseAudit.Report

namespace CourseAudit.Sample

open Report

-- A cell with a backslash in front of its bar, one that ends in a backslash, and one too many.
def escapes : List (List String) :=
  [[" a\\|b\n", "c\\", "3", "4"], []]

def escapesLine : List Char :=
  "|  a\\\\|b  |   c\\   | 3      |".toList

theorem escapes_read_back :
    verdictColumns ≠ [] ∧ (∀ column ∈ verdictColumns, '\n' ∉ column.1.toList) ∧
    ((Table.ofColumns verdictColumns).pushAll escapes).ReadsBack verdictColumns escapes ∧
    (Text.split '\n' ((Table.ofColumns verdictColumns).pushAll escapes).render.toList)[2]? =
      some escapesLine ∧
    (cutBars false escapesLine).map (fun text => unescape (stripSpaces text)) =
      ["".toList, "a\\|b".toList, "c\\".toList, "3".toList, "".toList] := by
  have hn : ∀ column ∈ verdictColumns, '\n' ∉ column.1.toList := by decide
  exact ⟨by decide, hn, Table.pushAll_readsBack _ _ (by decide) hn, by decide +kernel,
    by decide +kernel⟩

end CourseAudit.Sample
