/-!
Looking for one text inside another. `contains` is the executable form of core's `<:+:`
(`contains_iff`), from which its behaviour under longer texts follows.
-/
namespace CourseAudit.Text

def contains (part : List Char) : List Char → Bool
  | [] => part.isEmpty
  | c :: rest => part.isPrefixOf (c :: rest) || contains part rest

theorem contains_iff {part text : List Char} : contains part text = true ↔ part <:+: text := by
  induction text with
  | nil => simp [contains]
  | cons c rest ih =>
    rw [contains, Bool.or_eq_true, ih, List.isPrefixOf_iff_prefix, List.infix_cons_iff]

-- Text around a text cannot hide what the text contains.
theorem contains_append {part text : List Char} (before after : List Char)
    (h : contains part text = true) : contains part (before ++ text ++ after) = true := by
  obtain ⟨s, t, h⟩ := contains_iff.1 h
  exact contains_iff.2 ⟨before ++ s, t ++ after, by simp [← h]⟩

def containsString (part text : String) : Bool :=
  contains part.toList text.toList

-- What is left of a text after a given beginning.
def stripStart? : List Char → List Char → Option (List Char)
  | [], text => some text
  | _ :: _, [] => none
  | p :: part, c :: text => if p = c then stripStart? part text else none

theorem stripStart?_eq_some_iff {part text rest : List Char} :
    stripStart? part text = some rest ↔ text = part ++ rest := by
  induction part generalizing text with
  | nil => simp [stripStart?]
  | cons p part ih =>
    cases text with
    | nil => simp [stripStart?]
    | cons c text =>
      simp only [stripStart?, List.cons_append, List.cons.injEq]
      split
      case isTrue h => simp [h, ih]
      case isFalse h => simp [Ne.symm h]

-- What is left of a text before a given ending.
def stripEnd? (part text : List Char) : Option (List Char) :=
  (stripStart? part.reverse text.reverse).map List.reverse

theorem stripEnd?_eq_some_iff {part text rest : List Char} :
    stripEnd? part text = some rest ↔ text = rest ++ part := by
  simp only [stripEnd?, Option.map_eq_some_iff, stripStart?_eq_some_iff]
  constructor
  · rintro ⟨r, hr, rfl⟩
    rw [← List.reverse_reverse text, hr]
    simp
  · rintro rfl
    exact ⟨rest.reverse, by simp, by simp⟩

end CourseAudit.Text
