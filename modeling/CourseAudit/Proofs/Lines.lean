import CourseAudit.Text.Split

/-!
Lines as places of a text. Main statement: `exists_line_iff` (a line with a given beginning is a
place where a line begins and the beginning stands).
-/
namespace CourseAudit.Text

-- A run ends where the character behind it does not belong to it.
theorem takeWhile_append {p : Char → Bool} {run rest : List Char} (h : ∀ c ∈ run, p c = true)
    (hr : rest.head?.any p = false) : (run ++ rest).takeWhile p = run := by
  rw [List.takeWhile_append_of_pos h]
  cases rest
  case nil => simp
  case cons c rest => rw [List.takeWhile_cons_of_neg (by simpa using hr), List.append_nil]

-- The text in front of the first newline.
def firstLine (text : List Char) : List Char :=
  text.takeWhile (· ≠ '\n')

theorem head?_split (sep : Char) (text : List Char) :
    (split sep text).head? = some (text.takeWhile (· ≠ sep)) := by
  induction text
  case nil => rfl
  case cons c text hi =>
    rw [split]
    split
    case isTrue h => rw [List.takeWhile_cons_of_neg (by simpa using h)]; rfl
    case isFalse h =>
      rw [List.takeWhile_cons_of_pos (by simpa using h)]
      obtain ⟨piece, pieces, hs⟩ := List.exists_cons_of_ne_nil (split_ne_nil sep text)
      rw [hs, List.head?_cons, Option.some_inj] at hi
      rw [hs, hi]
      rfl

-- What is in front of a line is nothing, or it ends with the character between lines.
def StartsLine (sep : Char) (front : List Char) : Prop :=
  front = [] ∨ front.getLast? = some sep

theorem startsLine_append {sep : Char} {front more : List Char} (h : StartsLine sep front)
    (h' : StartsLine sep more) : StartsLine sep (front ++ more) := by
  rcases h' with rfl | h'
  case inl => rwa [List.append_nil]
  case inr => exact .inr (by rw [List.getLast?_append, h', Option.some_or])

-- A text without separators in front of another one is the beginning of its first line.
theorem split_append {sep : Char} {part text line : List Char} {lines : List (List Char)}
    (h : sep ∉ part) (hs : split sep text = line :: lines) :
    split sep (part ++ text) = (part ++ line) :: lines := by
  induction part
  case nil => exact hs
  case cons c part hi =>
    rw [List.mem_cons, not_or] at h
    rw [List.cons_append, split, if_neg (Ne.symm h.1), hi h.2]
    rfl

theorem exists_rest_of_join (sep line : List Char) (lines : List (List Char)) :
    ∃ rest, join sep (line :: lines) = line ++ rest := by
  cases lines
  case nil => exact ⟨[], (List.append_nil line).symm⟩
  case cons next lines => exact ⟨_, by rw [join_cons_cons, List.append_assoc]⟩

theorem exists_front_of_mem_split {sep : Char} {text line : List Char} (h : line ∈ split sep text) :
    ∃ front rest, text = front ++ line ++ rest ∧ StartsLine sep front := by
  obtain ⟨lines, more, hs⟩ := List.append_of_mem h
  have ⟨rest, hr⟩ := exists_rest_of_join [sep] line more
  have hj := join_split sep text
  rw [hs] at hj
  by_cases hl : lines = []
  case pos =>
    rw [hl, List.nil_append, hr] at hj
    exact ⟨[], rest, hj.symm, .inl rfl⟩
  case neg =>
    rw [join_append hl (List.cons_ne_nil line more), hr, ← List.append_assoc] at hj
    exact ⟨join [sep] lines ++ [sep], rest, hj.symm, .inr List.getLast?_concat⟩

-- Lines that begin with a part, and places where a line begins and the part stands.
theorem exists_line_iff {sep : Char} {text part : List Char} (h : sep ∉ part) :
    (∃ line ∈ split sep text, part <+: line) ↔
      ∃ front rest, text = front ++ part ++ rest ∧ StartsLine sep front := by
  constructor
  case mp =>
    rintro ⟨_, hl, more, rfl⟩
    obtain ⟨front, rest, rfl, hf⟩ := exists_front_of_mem_split hl
    exact ⟨front, more ++ rest, by simp only [List.append_assoc], hf⟩
  case mpr =>
    rintro ⟨front, rest, rfl, hf⟩
    obtain ⟨line, lines, hs⟩ := List.exists_cons_of_ne_nil (split_ne_nil sep rest)
    have hs := split_append h hs
    rw [List.append_assoc]
    rcases hf with rfl | hf
    case inl => exact ⟨_, hs ▸ List.mem_cons_self, List.prefix_append ..⟩
    case inr =>
      obtain ⟨front, rfl⟩ := List.getLast?_eq_some_iff.mp hf
      rw [List.append_assoc, List.singleton_append, split_append_cons, hs]
      exact ⟨_, List.mem_append_right _ List.mem_cons_self, List.prefix_append ..⟩

end CourseAudit.Text
