import Mathlib.Data.List.TakeWhile
import CourseAudit.Documentation
import CourseAudit.Proofs.CodePoints
import CourseAudit.Proofs.Lines
import CourseAudit.Proofs.Totals

/-!
The identifiers that a documentation cites. They are those that stand somewhere in the text between
characters that are no word characters, each once and in increasing order. Main statements:
`identifiers_increasing` and `mem_identifiers_iff`.
-/
namespace CourseAudit.Documentation

open Unicode (isDigit isWord isWord_of_isDigit)

/-! ### Shape -/

inductive IsIdentifier : List Char → Prop
  | weakness {number : List Char} :
    1 ≤ number.length → (∀ c ∈ number, isDigit c = true) →
    IsIdentifier ("CWE-".toList ++ number)
  | vulnerability {year number : List Char} :
    year.length = 4 → (∀ c ∈ year, isDigit c = true) →
    4 ≤ number.length → (∀ c ∈ number, isDigit c = true) →
    IsIdentifier ("CVE-".toList ++ year ++ ['-'] ++ number)

-- No word character is next to the identifier.
def Occurs (id text : List Char) : Prop :=
  ∃ front rest, text = front ++ id ++ rest ∧ IsIdentifier id ∧
    front.getLast?.any isWord = false ∧ rest.head?.any isWord = false

variable {text id front rest : List Char}

theorem any_isDigit_of_any_isWord {c : Option Char} (h : c.any isWord = false) :
    c.any isDigit = false := by
  cases c
  case none => rfl
  case some c => exact Bool.eq_false_iff.mpr fun hd => Bool.eq_false_iff.mp h (isWord_of_isDigit hd)

-- A number is as long as it can be.
theorem number?_eq_some_of {least : Nat} {number : List Char} (hl : least ≤ number.length)
    (hn : ∀ c ∈ number, isDigit c = true) (hr : rest.head?.any isWord = false) :
    number? least (number ++ rest) = some number := by
  rw [number?, Text.takeWhile_append hn (any_isDigit_of_any_isWord hr), if_pos hl]

theorem of_number? {least : Nat} {number : List Char} (h : number? least text = some number) :
    least ≤ number.length ∧ (∀ c ∈ number, isDigit c = true) ∧ ∃ rest, text = number ++ rest := by
  simp only [number?, Option.ite_none_right_eq_some, Option.some.injEq] at h
  obtain ⟨hl, rfl⟩ := h
  exact ⟨hl, fun _ => List.mem_takeWhile_imp, _, List.takeWhile_append_dropWhile.symm⟩

theorem of_weakness? (h : weakness? text = some id) :
    IsIdentifier id ∧ ∃ rest, text = id ++ rest := by
  simp only [weakness?, Option.bind_eq_bind, Option.bind_eq_some_iff, Option.some.injEq] at h
  obtain ⟨behind, hs, number, hn, rfl⟩ := h
  obtain rfl := Text.stripStart?_eq_some_iff.mp hs
  obtain ⟨hl, hd, rest, rfl⟩ := of_number? hn
  exact ⟨.weakness hl hd, rest, (List.append_assoc ..).symm⟩

theorem of_vulnerability? (h : vulnerability? text = some id) :
    IsIdentifier id ∧ ∃ rest, text = id ++ rest := by
  simp only [vulnerability?, Option.bind_eq_bind, Option.bind_eq_some_iff,
    Option.ite_none_right_eq_some, Option.some.injEq] at h
  obtain ⟨behind, hs, ⟨hl, hy⟩, marked, hm, number, hn, rfl⟩ := h
  obtain rfl := Text.stripStart?_eq_some_iff.mp hs
  have hm := Text.stripStart?_eq_some_iff.mp hm
  obtain ⟨hl', hd, rest, rfl⟩ := of_number? hn
  refine ⟨.vulnerability hl (List.all_eq_true.mp hy) hl' hd, rest, ?_⟩
  have hb : behind = behind.take 4 ++ (['-'] ++ (number ++ rest)) := by
    rw [← hm, List.take_append_drop]
  simp only [List.append_assoc]
  rw [← hb]

theorem weakness?_eq_some_of {number : List Char} (hl : 1 ≤ number.length)
    (hn : ∀ c ∈ number, isDigit c = true) (hr : rest.head?.any isWord = false) :
    weakness? ("CWE-".toList ++ number ++ rest) = some ("CWE-".toList ++ number) := by
  rw [weakness?, List.append_assoc, Text.stripStart?_eq_some_iff.mpr rfl, Option.bind_eq_bind,
    Option.bind_some, number?_eq_some_of hl hn hr]
  rfl

theorem vulnerability?_eq_some_of {year number : List Char} (hy : year.length = 4)
    (hd : ∀ c ∈ year, isDigit c = true) (hl : 4 ≤ number.length)
    (hn : ∀ c ∈ number, isDigit c = true) (hr : rest.head?.any isWord = false) :
    vulnerability? ("CVE-".toList ++ year ++ ['-'] ++ number ++ rest) =
      some ("CVE-".toList ++ year ++ ['-'] ++ number) := by
  have ht : (year ++ (['-'] ++ (number ++ rest))).take 4 = year := by rw [← hy, List.take_left]
  have hd' : (year ++ (['-'] ++ (number ++ rest))).drop 4 = ['-'] ++ (number ++ rest) := by
    rw [← hy, List.drop_left]
  simp only [vulnerability?, List.append_assoc]
  rw [Text.stripStart?_eq_some_iff.mpr rfl]
  simp only [Option.bind_eq_bind, Option.bind_some]
  rw [ht, hd', if_pos ⟨hy, List.all_eq_true.mpr hd⟩, Text.stripStart?_eq_some_iff.mpr rfl]
  simp only [Option.bind_some, number?_eq_some_of hl hn hr]

-- No text begins with an identifier of either kind.
theorem weakness?_vulnerability (text : List Char) : weakness? ("CVE-".toList ++ text) = none :=
  rfl

-- Behind an identifier that no word character follows there is no longer one.
theorem identifier?_eq_some_iff :
    identifier? text = some id ↔
      IsIdentifier id ∧ ∃ rest, text = id ++ rest ∧ rest.head?.any isWord = false := by
  constructor
  case mp =>
    intro h
    rw [identifier?.eq_def] at h
    split at h
    case h_2 => cases h
    case h_1 found hf =>
      have ⟨hi, rest, ht⟩ : IsIdentifier found ∧ ∃ rest, text = found ++ rest := by
        cases hw : weakness? text <;> rw [hw] at hf
        case none => exact of_vulnerability? hf
        case some => cases hf; exact of_weakness? hw
      split at h
      case isTrue => cases h
      case isFalse hr =>
        cases h
        rw [ht, List.drop_left] at hr
        exact ⟨hi, rest, ht, Bool.eq_false_iff.mpr hr⟩
  case mpr =>
    rintro ⟨hi, rest, rfl, hr⟩
    have hs : (weakness? (id ++ rest) <|> vulnerability? (id ++ rest)) = some id := by
      cases hi
      case weakness hl hn => rw [weakness?_eq_some_of hl hn hr]; rfl
      case vulnerability hy hd hl hn =>
        rw [vulnerability?_eq_some_of hy hd hl hn hr]
        simp only [List.append_assoc, weakness?_vulnerability]
        rfl
    rw [identifier?, hs]
    simp only [List.drop_left]
    rw [if_neg (Bool.eq_false_iff.mp hr)]

/-! ### Occurrences -/

theorem IsIdentifier.head? (h : IsIdentifier id) : id.head? = some 'C' := by
  cases h <;> rfl

theorem IsIdentifier.ne_nil (h : IsIdentifier id) : id ≠ [] := by
  rintro rfl
  cases h.head?

-- The character before a place, when there is one more in front of the text.
theorem getLast?_cons_or (c : Char) (front : List Char) (before : Option Char) :
    (c :: front).getLast?.or before = front.getLast?.or (some c) := by
  rw [List.getLast?_cons]
  cases front.getLast? <;> rfl

-- By induction on the text; the character in front of it is carried along.
theorem mem_occurrences_iff {before : Option Char} :
    id ∈ occurrences before text ↔ ∃ front rest, text = front ++ id ++ rest ∧ IsIdentifier id ∧
      (front.getLast?.or before).any isWord = false ∧ rest.head?.any isWord = false := by
  induction text generalizing before
  case nil =>
    refine iff_of_false List.not_mem_nil ?_
    rintro ⟨front, rest, he, hi, _⟩
    exact hi.ne_nil (by simp_all)
  case cons c text hi =>
    have hhere : id ∈ (if before.any isWord then none else identifier? (c :: text)).toList ↔
        before.any isWord = false ∧ identifier? (c :: text) = some id := by
      cases before.any isWord <;> simp
    rw [occurrences, List.mem_append, hhere, hi, identifier?_eq_some_iff]
    constructor
    case mp =>
      rintro (⟨hb, hid, rest, ht, hr⟩ | ⟨front, rest, rfl, hid, hb, hr⟩)
      case inl => exact ⟨[], rest, ht, hid, hb, hr⟩
      case inr => exact ⟨c :: front, rest, rfl, hid, getLast?_cons_or c front before ▸ hb, hr⟩
    case mpr =>
      rintro ⟨front, rest, ht, hid, hb, hr⟩
      cases front
      case nil => exact .inl ⟨hb, hid, rest, ht, hr⟩
      case cons d front =>
        cases ht
        exact .inr ⟨front, rest, rfl, hid, getLast?_cons_or c front before ▸ hb, hr⟩

/-! ### Increasing lists -/

theorem insert_eq : insert = Report.insertName := by
  funext id ids
  induction ids
  case nil => rfl
  case cons first rest hi => rw [insert, Report.insertName, hi]

theorem mem_foldr_insert {ids more : List String} {id : String} :
    id ∈ ids.foldr insert more ↔ id ∈ ids ∨ id ∈ more := by
  rw [insert_eq]
  induction ids
  case nil => simp
  case cons first ids hi => rw [List.foldr_cons, Report.mem_insertName, hi, List.mem_cons, or_assoc]

theorem foldr_insert_increasing {ids more : List String} (h : more.Pairwise (· < ·)) :
    (ids.foldr insert more).Pairwise (· < ·) := by
  rw [insert_eq]
  induction ids
  case nil => exact h
  case cons hi => exact Report.insertName_pairwise hi

theorem identifiers_increasing (text : List Char) : (identifiers text).Pairwise (· < ·) :=
  foldr_insert_increasing .nil

theorem mem_map_ofList_iff {texts : List (List Char)} {id : String} :
    id ∈ texts.map String.ofList ↔ id.toList ∈ texts := by
  rw [List.mem_map]
  constructor
  case mp => rintro ⟨text, ht, rfl⟩; rwa [String.toList_ofList]
  case mpr => exact fun h => ⟨_, h, String.ofList_toList⟩

theorem mem_identifiers_iff {id : String} : id ∈ identifiers text ↔ Occurs id.toList text := by
  rw [identifiers, mem_foldr_insert, or_iff_left List.not_mem_nil, mem_map_ofList_iff,
    mem_occurrences_iff]
  simp only [Option.or_none, Occurs]

end CourseAudit.Documentation
