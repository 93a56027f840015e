import CourseAudit.Proofs.Decoding
import CourseAudit.Proofs.Denotation
import CourseAudit.Proofs.Identifiers
import CourseAudit.Proofs.Scans

/-!
The search for identifiers. It goes on behind each match and still finds them all, since no two of
them overlap; and bytes that are no text hide none of them. Main statement:
`Documentation.finds_all`.
-/
namespace CourseAudit.Documentation

open Regex Unicode
open Text.Utf8 (Bytes NeverOccurs decodeLossy encodeString replacement)

variable {text id front rest : List Char}

/-! ### Search -/

def pattern : String :=
  "\\b(?:CWE-\\d+|CVE-\\d{4}-\\d{4,})\\b"

-- An identifier of either kind.
def kinds : Regex :=
  .alt (.seq (.literal "CWE-".toList) (digits 1 none))
    (.seq (.literal "CVE-".toList)
      (.seq (digits 4 (some 4)) (.seq (.literal ['-']) (digits 4 none))))

def expression : Regex :=
  .seq (.look (.wordBoundary true)) (.seq kinds (.look (.wordBoundary true)))

set_option maxRecDepth 20000 in
theorem denotes_expression : Denotes pattern expression := by
  apply denotes_of
  · conv => lhs; cbv
  have hy : repetition (.set digitTable) 4 (some 4) true = digits 4 (some 4) :=
    repetition_set_some _ (.inl (by decide))
  simp only [Except.bind, Except.map, initial_eq, Ast.meaning, ClassAst.meaning, Mode.look,
    inPattern_usual, negateIf_usual, Bool.false_eq_true, if_false, shorthand_digit,
    ofSet_digitTable, swapGreed_usual, ok_bind, change_none, repetition_set_none,
    repeat_digitTable, hy]
  rfl

theorem holds_wordBoundary {before after : Option Char} :
    (Look.wordBoundary true).holds before after = (before.any isWord != after.any isWord) := by
  cases before <;> cases after <;> rfl

theorem spans_kinds_iff : kinds.Spans front id rest ↔ IsIdentifier id := by
  simp only [kinds, spans_alt_iff, spans_seq_iff, spans_literal_iff, spans_digits_iff]
  constructor
  case mp =>
    rintro (⟨_, number, rfl, rfl, hl, _, hd⟩ |
      ⟨_, _, rfl, rfl, year, _, rfl, ⟨hy, hy', hd⟩, _, number, rfl, rfl, hl, _, hn⟩)
    case inl => exact .weakness hl hd
    case inr =>
      simpa only [List.append_assoc] using
        IsIdentifier.vulnerability (Nat.le_antisymm (hy' 4 rfl) hy) hd hl hn
  case mpr =>
    intro h
    cases h
    case weakness number hl hd => exact .inl ⟨_, number, rfl, rfl, hl, nofun, hd⟩
    case vulnerability year number hy hd hl hn =>
      refine .inr ⟨_, year ++ (['-'] ++ number), by simp only [List.append_assoc], rfl, year, _,
        rfl, ⟨Nat.le_of_eq hy.symm, ?_, hd⟩, _, number, rfl, rfl, hl, nofun, hn⟩
      rintro _ ⟨⟩
      exact Nat.le_of_eq hy

-- An identifier ends with a number.
theorem IsIdentifier.exists_last (h : IsIdentifier id) :
    ∃ more d, id = more ++ [d] ∧ isDigit d = true := by
  obtain ⟨more, number, rfl, hl, hd⟩ : ∃ more number, id = more ++ number ∧ 1 ≤ number.length ∧
      ∀ c ∈ number, isDigit c = true := by
    cases h
    case weakness number hl hd => exact ⟨_, number, rfl, hl, hd⟩
    case vulnerability hl hd => exact ⟨_, _, rfl, Nat.le_trans (by decide) hl, hd⟩
  obtain ⟨digits, d, rfl⟩ := List.eq_nil_or_concat' number |>.resolve_left (by rintro rfl; cases hl)
  exact ⟨more ++ digits, d, (List.append_assoc ..).symm, hd d (by simp)⟩

theorem IsIdentifier.begins_word (h : IsIdentifier id) (rest : List Char) :
    (id ++ rest).head?.any isWord = true := by
  rw [List.head?_append, h.head?]
  change isWord 'C' = true
  decide

theorem IsIdentifier.ends_word (h : IsIdentifier id) (front : List Char) :
    (front ++ id).getLast?.any isWord = true := by
  obtain ⟨more, d, rfl, hd⟩ := h.exists_last
  rw [← List.append_assoc, List.getLast?_concat]
  exact isWord_of_isDigit hd

-- The pattern matches the identifiers with no word characters next to them.
theorem spans_expression_iff :
    expression.Spans front id rest ↔
      IsIdentifier id ∧ front.getLast?.any isWord = false ∧ rest.head?.any isWord = false := by
  rw [expression, spans_seq_iff]
  simp only [spans_look_iff, holds_wordBoundary, spans_seq_iff, spans_kinds_iff]
  constructor
  case mp =>
    rintro ⟨_, _, rfl, ⟨rfl, hb⟩, id, _, rfl, hid, rfl, hr⟩
    rw [List.append_nil, hid.begins_word] at hb
    rw [List.append_nil, hid.ends_word] at hr
    exact ⟨by simpa using hid, by simpa using hb, by simpa using hr⟩
  case mpr =>
    rintro ⟨hid, hb, hr⟩
    refine ⟨[], id, rfl, ⟨rfl, ?_⟩, id, [], (List.append_nil id).symm, hid, rfl, ?_⟩
    case refine_1 => rw [hid.begins_word, hb]; rfl
    case refine_2 => rw [List.append_nil, hid.ends_word, hr]; rfl

-- Only the first character of an identifier is a capital C.
theorem IsIdentifier.not_mem_tail (h : IsIdentifier id) : 'C' ∉ id.tail := by
  have hc {number : List Char} (hn : ∀ c ∈ number, isDigit c = true) : 'C' ∉ number :=
    fun hm => absurd (hn _ hm) (by decide)
  cases h
  case weakness hn => simpa using hc hn
  case vulnerability hy _ hn => simpa using ⟨hc hy, hc hn⟩

theorem IsIdentifier.eq {id' rest' : List Char} (h : IsIdentifier id) (h' : IsIdentifier id')
    (hr : rest.head?.any isWord = false) (hr' : rest'.head?.any isWord = false)
    (he : id ++ rest = id' ++ rest') : id = id' := by
  have hi := identifier?_eq_some_iff.mpr ⟨h, rest, rfl, hr⟩
  have hi' := identifier?_eq_some_iff.mpr ⟨h', rest', he, hr'⟩
  exact Option.some_inj.mp (hi.symm.trans hi')

-- Two matches at one place are one match, and no match begins inside another one.
theorem apart_expression (text : List Char) : Apart text.toArray expression := by
  constructor
  case nonempty =>
    intro i j hi hm
    obtain ⟨front, id, rest, _, rfl, rfl, hs⟩ := hm.exists_spans hi
    have := List.length_pos_of_ne_nil (spans_expression_iff.mp hs).1.ne_nil
    omega
  case apart =>
    intro i j i' j' hle hi' hm hm'
    obtain ⟨front, id, rest, rfl, rfl, rfl, hs⟩ := hm.exists_spans (Nat.le_trans hle hi')
    obtain ⟨front', id', rest', ht, rfl, rfl, hs'⟩ := hm'.exists_spans hi'
    have ⟨hid, _, hr⟩ := spans_expression_iff.mp hs
    have ⟨hid', _, hr'⟩ := spans_expression_iff.mp hs'
    obtain ⟨between, rfl⟩ : ∃ between, front' = front ++ between := by
      rw [List.append_assoc, List.append_assoc] at ht
      have hp := List.prefix_of_prefix_length_le ⟨_, rfl⟩ ⟨_, ht.symm⟩ hle
      exact hp.imp fun _ => Eq.symm
    rw [List.append_assoc, List.append_assoc, List.append_assoc, List.append_cancel_left_eq] at ht
    rw [List.length_append]
    rcases List.append_eq_append_iff.mp ht with ⟨gap, rfl, _⟩ | ⟨shared, rfl, hb⟩
    case inl => exact .inr (by rw [List.length_append]; omega)
    case inr =>
      rcases between with _ | ⟨b, between⟩
      case nil =>
        obtain rfl := hid.eq hid' hr hr' ht
        exact .inl ⟨rfl, rfl⟩
      case cons =>
        rcases shared with _ | ⟨c, shared⟩
        case nil => exact .inr (by simp)
        case cons =>
          have hc := congrArg List.head? hb
          rw [List.head?_append, hid'.head?] at hc
          cases hc
          exact absurd (List.mem_append_right between List.mem_cons_self) hid.not_mem_tail

-- What the search finds is what is cited.
theorem identifiers_eq_pieces (text : List Char) :
    identifiers text = ((pieces text expression).map String.ofList).foldr insert [] := by
  have hp : expression.IsProper := by simp [expression, kinds, digits, IsProper]
  refine increasing_ext (fun id => id) (identifiers_increasing text)
    (foldr_insert_increasing .nil) fun id => ?_
  rw [mem_identifiers_iff, mem_foldr_insert, or_iff_left List.not_mem_nil, mem_map_ofList_iff,
    (apart_expression text).mem_pieces_iff hp]
  simp only [spans_expression_iff, Occurs]

/-! ### Bytes that are no text -/

section

variable {c : Char} {behind : List Char}

theorem head?_append_any (hc : isWord c = false) :
    (rest ++ c :: behind).head?.any isWord = rest.head?.any isWord := by
  cases rest <;> simp [hc]

theorem getLast?_append_any (hc : isWord c = false) :
    (front ++ c :: behind).getLast?.any isWord = behind.getLast?.any isWord := by
  rw [List.getLast?_append, List.getLast?_cons]
  cases behind.getLast? <;> simp [hc]

theorem IsIdentifier.isWord_or_eq (h : IsIdentifier id) : ∀ c ∈ id, isWord c = true ∨ c = '-' := by
  have hm {mark : List Char} (hm : mark.all (fun c => isWord c || c = '-') = true) :
      ∀ c ∈ mark, isWord c = true ∨ c = '-' := by simpa using hm
  have hn {number : List Char} (hn : ∀ c ∈ number, isDigit c = true) :
      ∀ c ∈ number, isWord c = true ∨ c = '-' := fun c hc => .inl (isWord_of_isDigit (hn c hc))
  cases h
  case weakness hd => exact List.forall_mem_append.mpr ⟨hm (by decide), hn hd⟩
  case vulnerability hy _ hd =>
    simp only [List.forall_mem_append]
    exact ⟨⟨⟨hm (by decide), hn hy⟩, hm (by decide)⟩, hn hd⟩

-- A character that is no part of an identifier divides a text.
theorem occurs_append_cons_iff (hc : isWord c = false) (hd : c ≠ '-') :
    Occurs id (front ++ c :: behind) ↔ Occurs id front ∨ Occurs id behind := by
  constructor
  case mp =>
    rintro ⟨before, rest, he, hid, hb, hr⟩
    have hnot : c ∉ id := fun hm => (hid.isWord_or_eq c hm).elim (Bool.eq_false_iff.mp hc) hd
    rcases List.append_eq_append_iff.mp he with ⟨shared, hs, hrest⟩ | ⟨gap, rfl, rfl⟩
    case inl =>
      rcases shared with _ | ⟨d, shared⟩
      case nil =>
        rw [List.append_nil] at hs
        exact .inl ⟨before, [], by rw [hs, List.append_nil], hid, hb, rfl⟩
      case cons =>
        cases hrest
        rcases List.append_eq_append_iff.mp hs with ⟨_, _, rfl⟩ | ⟨gap, rfl, hg⟩
        case inl => exact (hnot (List.mem_append_right _ List.mem_cons_self)).elim
        case inr =>
          rcases gap with _ | ⟨d, gap⟩
          case nil =>
            rw [List.nil_append] at hg
            exact (hnot (hg ▸ List.mem_cons_self)).elim
          case cons =>
            cases hg
            exact .inr ⟨gap, rest, rfl, hid, getLast?_append_any hc ▸ hb, hr⟩
    case inr => exact .inl ⟨before, gap, rfl, hid, hb, head?_append_any hc ▸ hr⟩
  case mpr =>
    rintro (⟨before, rest, rfl, hid, hb, hr⟩ | ⟨before, rest, rfl, hid, hb, hr⟩)
    case inl =>
      exact ⟨before, rest ++ c :: behind, by simp, hid, hb, (head?_append_any hc).trans hr⟩
    case inr =>
      exact ⟨front ++ c :: before, rest, by simp, hid, (getLast?_append_any hc).trans hb, hr⟩

theorem not_occurs_nil : ¬Occurs id [] := by
  rintro ⟨front, rest, he, hid, _⟩
  exact hid.ne_nil (by simp_all)

theorem occurs_replicate_iff (hc : isWord c = false) (hd : c ≠ '-') (n : Nat) :
    Occurs id (List.replicate n c ++ behind) ↔ Occurs id behind := by
  induction n
  case zero => rfl
  case succ n hi =>
    rw [List.replicate_succ, List.cons_append, ← List.nil_append (c :: _),
      occurs_append_cons_iff hc hd, or_iff_right not_occurs_nil, hi]

-- Replacement characters between two texts divide them.
theorem occurs_around_iff {n : Nat} (hn : n ≠ 0) :
    Occurs id (front ++ List.replicate n replacement ++ behind) ↔
      Occurs id front ∨ Occurs id behind := by
  obtain ⟨n, rfl⟩ := Nat.exists_eq_succ_of_ne_zero hn
  have hc : isWord replacement = false := isWord_replacement
  have hd : replacement ≠ '-' := by decide
  rw [List.append_assoc, List.replicate_succ, List.cons_append, occurs_append_cons_iff hc hd,
    occurs_replicate_iff hc hd]

end

/-! ### Reports -/

-- Some identifiers together with others, each once and in the order of their bytes.
structure IsUnion (ids a b : List String) : Prop where
  increasing : ids.Pairwise fun id id' => encodeString id < encodeString id'
  mem_iff    : ∀ id, id ∈ ids ↔ id ∈ a ∨ id ∈ b

-- What is reported for a file with some identifiers in it.
inductive Reported (name : String) : List String → CheckResult → Prop
  | silent : Reported name [] ⟨checkName, .failed, name ++ " cites no CWE or CVE identifier"⟩
  | cited {ids : List String} : ids ≠ [] →
    Reported name ids ⟨checkName, .passed, name ++ ": " ++ Text.joinStrings ", " ids⟩

theorem Reported.eq_of_ne_nil {name : String} {ids : List String} {result : CheckResult}
    (h : Reported name ids result) (hn : ids ≠ []) :
    result = ⟨checkName, .passed, name ++ ": " ++ Text.joinStrings ", " ids⟩ := by
  cases h
  case silent => exact (hn rfl).elim
  case cited => rfl

theorem reported_checkBytes (name : String) (bytes : Bytes) :
    Reported name (identifiers (decodeLossy bytes)) (checkBytes name bytes) := by
  rw [checkBytes]
  split
  case h_1 h => exact h ▸ .silent
  case h_2 h => exact .cited h

theorem check_of_read {t : FileTree} {path : Path} {bytes : Bytes} (h : t.read path = .ok bytes) :
    check t (some path) = checkBytes path.fileName bytes := by
  rw [check, h]

theorem pairwise_encodeString {ids : List String} (h : ids.Pairwise (· < ·)) :
    ids.Pairwise fun id id' => encodeString id < encodeString id' :=
  h.imp Text.Utf8.encodeString_lt_iff.mpr

theorem isUnion_around (front behind : String) {stray : Bytes} (hn : stray ≠ [])
    (hs : ∀ b ∈ stray, NeverOccurs b) :
    IsUnion (identifiers (decodeLossy (encodeString front ++ stray ++ encodeString behind)))
      (identifiers front.toList) (identifiers behind.toList) where
  increasing := pairwise_encodeString (identifiers_increasing _)
  mem_iff id := by
    rw [encodeString, encodeString, Text.Utf8.decodeLossy_around _ _ hs]
    simp only [mem_identifiers_iff]
    exact occurs_around_iff (mt List.length_eq_zero_iff.mp hn)

-- All identifiers of a text are found, though the search for them does not look at any character
-- twice; and bytes that are no text hide none of them.
theorem finds_all :
    Denotes pattern expression ∧
    (∀ text, identifiers text = ((pieces text expression).map String.ofList).foldr insert []) ∧
    (∀ text, (identifiers text).Pairwise fun id id' => encodeString id < encodeString id') ∧
    (∀ text id, id ∈ identifiers text ↔ Occurs id.toList text) ∧
    (∀ (front behind : String) (stray : Bytes), stray ≠ [] → (∀ b ∈ stray, NeverOccurs b) →
      ∀ (t : FileTree) (path : Path),
        t.read path = .ok (encodeString front ++ stray ++ encodeString behind) →
        ∃ ids, IsUnion ids (identifiers front.toList) (identifiers behind.toList) ∧
          Reported path.fileName ids (check t (some path))) := by
  refine ⟨denotes_expression, identifiers_eq_pieces,
    fun text => pairwise_encodeString (identifiers_increasing text),
    fun _ _ => mem_identifiers_iff, fun front behind stray hn hs t path hr => ?_⟩
  exact ⟨_, isUnion_around front behind hn hs, check_of_read hr ▸ reported_checkBytes ..⟩

end CourseAudit.Documentation

namespace CourseAudit.Sample

open Documentation
open Text.Utf8 (NeverOccurs encodeString)

-- A file whose author wrote one byte in another encoding.
def mixed : FileTree where
  root := .directory [("README.md", .file
    (encodeString "CWE-416" ++ [0xFF] ++ encodeString "CVE-2021-44228") false)]
  cwd := []

theorem identifiers_around_byte :
    (∀ b ∈ [0xFF], NeverOccurs b) ∧
    mixed.read ⟨"README.md"⟩ =
      .ok (encodeString "CWE-416" ++ [0xFF] ++ encodeString "CVE-2021-44228") ∧
    check mixed (some ⟨"README.md"⟩) =
      ⟨"documentation", .passed, "README.md: CVE-2021-44228, CWE-416"⟩ := by
  have hs : ∀ b ∈ [0xFF], NeverOccurs b := by
    rw [List.forall_mem_singleton]
    exact .inr (.inr (by decide))
  have hr : mixed.read ⟨"README.md"⟩ =
      .ok (encodeString "CWE-416" ++ [0xFF] ++ encodeString "CVE-2021-44228") := by decide +kernel
  have ⟨_, _, _, _, hc⟩ := Documentation.finds_all
  have ⟨ids, hu, hi⟩ := hc "CWE-416" "CVE-2021-44228" [0xFF] (by decide) hs mixed _ hr
  have ha : identifiers "CWE-416".toList = ["CWE-416"] := by decide +kernel
  have hb : identifiers "CVE-2021-44228".toList = ["CVE-2021-44228"] := by decide +kernel
  rw [ha, hb] at hu
  obtain rfl : ids = ["CVE-2021-44228", "CWE-416"] :=
    increasing_ext (fun id => id) (hu.increasing.imp Text.Utf8.encodeString_lt_iff.mp)
      (by decide +kernel) fun id => by
        rw [hu.mem_iff]
        simp [or_comm]
  exact ⟨hs, hr, (hi.eq_of_ne_nil (by decide)).trans (by decide +kernel)⟩

end CourseAudit.Sample
