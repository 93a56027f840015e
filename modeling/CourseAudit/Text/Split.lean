/-!
Cutting a text into pieces and putting pieces together again. Texts are lists of characters here, so
that every lemma is an induction on the text; the `String` versions wrap them.

Main statements: `join_split` and `split_join` (cutting at a character and joining with it undo each
other) and `split_length` (one piece more than there are separators).
-/
namespace CourseAudit.Text

-- The pieces between the occurrences of a separator. There is always at least one.
def split (sep : Char) : List Char → List (List Char)
  | [] => [[]]
  | c :: rest =>
    if c = sep then [] :: split sep rest
    else
      match split sep rest with
      | [] => [[c]]
      | piece :: pieces => (c :: piece) :: pieces

def join (sep : List Char) : List (List Char) → List Char
  | [] => []
  | [piece] => piece
  | piece :: pieces => piece ++ sep ++ join sep pieces

theorem split_ne_nil (sep : Char) (text : List Char) : split sep text ≠ [] := by
  cases text with
  | nil => simp [split]
  | cons c rest =>
    rw [split]
    split
    · simp
    · split <;> simp

theorem join_cons_cons (sep piece next : List Char) (pieces : List (List Char)) :
    join sep (piece :: next :: pieces) = piece ++ sep ++ join sep (next :: pieces) :=
  rfl

theorem join_split (sep : Char) (text : List Char) : join [sep] (split sep text) = text := by
  induction text with
  | nil => rfl
  | cons c rest ih =>
    rw [split]
    split
    case isTrue h =>
      cases hs : split sep rest with
      | nil => exact absurd hs (split_ne_nil sep rest)
      | cons piece pieces => rw [join_cons_cons, ← hs, ih, h]; rfl
    case isFalse h =>
      cases hs : split sep rest with
      | nil => exact absurd hs (split_ne_nil sep rest)
      | cons piece pieces =>
        rw [hs] at ih
        cases pieces with
        | nil => simpa [join] using ih
        | cons next pieces => simpa [join_cons_cons] using ih

theorem split_length (sep : Char) (text : List Char) :
    (split sep text).length = text.count sep + 1 := by
  induction text with
  | nil => rfl
  | cons c rest ih =>
    rw [split]
    split
    case isTrue h => simp [ih, h]
    case isFalse h =>
      cases hs : split sep rest with
      | nil => exact absurd hs (split_ne_nil sep rest)
      | cons piece pieces =>
        rw [hs] at ih
        simp_all

-- Every piece is free of the separator.
theorem not_mem_of_mem_split {sep : Char} {text piece : List Char} (h : piece ∈ split sep text) :
    sep ∉ piece := by
  induction text generalizing piece with
  | nil => simp_all [split]
  | cons c rest ih =>
    rw [split] at h
    split at h
    case isTrue => rcases List.mem_cons.1 h with rfl | h <;> simp_all
    case isFalse hc =>
      cases hs : split sep rest with
      | nil => exact absurd hs (split_ne_nil sep rest)
      | cons first pieces =>
        rw [hs] at h ih
        rcases List.mem_cons.1 h with rfl | h
        · have := ih (List.mem_cons_self ..)
          simp_all [Ne.symm hc]
        · exact ih (List.mem_cons_of_mem _ h)

-- Cutting a text at one of its separators first makes no difference.
theorem split_append_cons (sep : Char) (xs ys : List Char) :
    split sep (xs ++ sep :: ys) = split sep xs ++ split sep ys := by
  induction xs with
  | nil => simp [split]
  | cons c rest ih =>
    rw [List.cons_append, split, split, ih]
    split
    case isTrue => rfl
    case isFalse =>
      cases hs : split sep rest with
      | nil => exact absurd hs (split_ne_nil sep rest)
      | cons piece pieces => rfl

theorem split_of_not_mem {sep : Char} {text : List Char} (h : sep ∉ text) :
    split sep text = [text] := by
  induction text with
  | nil => rfl
  | cons c rest ih =>
    rw [List.mem_cons, not_or] at h
    rw [split, if_neg (Ne.symm h.1), ih h.2]

theorem join_append {sep : List Char} {xs ys : List (List Char)} (hx : xs ≠ []) (hy : ys ≠ []) :
    join sep (xs ++ ys) = join sep xs ++ sep ++ join sep ys := by
  induction xs
  case nil => exact (hx rfl).elim
  case cons piece xs hi =>
    cases xs
    case nil =>
      obtain ⟨next, ys, rfl⟩ := List.exists_cons_of_ne_nil hy
      rfl
    case cons next xs =>
      rw [List.cons_append, List.cons_append, join_cons_cons, ← List.cons_append, hi (by simp),
        join_cons_cons]
      simp only [List.append_assoc]

theorem split_join {sep : Char} {pieces : List (List Char)} (hp : pieces ≠ [])
    (hs : ∀ piece ∈ pieces, sep ∉ piece) : split sep (join [sep] pieces) = pieces := by
  induction pieces
  case nil => exact (hp rfl).elim
  case cons piece rest hi =>
    have ⟨hf, hr⟩ := List.forall_mem_cons.mp hs
    cases rest
    case nil => exact split_of_not_mem hf
    case cons next rest =>
      rw [join_cons_cons, List.append_assoc, List.singleton_append, split_append_cons,
        split_of_not_mem hf, hi (by simp) hr]
      rfl

def splitString (sep : Char) (text : String) : List String :=
  (split sep text.toList).map String.ofList

def joinStrings (sep : String) (pieces : List String) : String :=
  String.ofList (join sep.toList (pieces.map String.toList))

/-!
Lines end at a newline, and a carriage return just before that newline belongs to the line ending. A
text that ends in a newline has no empty line after it.
-/

-- Drops the carriage return of a line ending.
def dropReturn (line : List Char) : List Char :=
  match line.getLast? with
  | some '\r' => line.dropLast
  | _ => line

-- The pieces as lines: all but the last were ended by a newline, and an empty last one is none.
def endLines : List (List Char) → List (List Char)
  | [] => []
  | [last] => if last.isEmpty then [] else [last]
  | line :: rest => dropReturn line :: endLines rest

def lines (text : List Char) : List (List Char) :=
  endLines (split '\n' text)

def linesOfString (text : String) : List String :=
  (lines text.toList).map String.ofList

-- Replaces every occurrence of one character by a text.
def replaceChar (c : Char) (by' : List Char) (text : List Char) : List Char :=
  text.flatMap fun x => if x = c then by' else [x]

end CourseAudit.Text
