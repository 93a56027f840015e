import Mathlib.Data.List.Induction
import Mathlib.Logic.Relation
import CourseAudit.Proofs.Paths

/-!
The paths around a path: its parent, the parent of that, and so on. Main statements:
`find?_ancestors_eq_some_iff` (a search upward finds the nearest path around a path that has a
property) and `parent?_join` (around a name below a path is that path, as it reads without the
slashes and dots at its end).
-/
namespace CourseAudit.Path

open Relation (ReflTransGen)

-- One path is the parent of the other, as the texts tell.
def IsParent (p q : Path) : Prop :=
  p.parent? = some q

-- The first path is the second one or has it above it.
def Within : Path → Path → Prop :=
  ReflTransGen IsParent

-- Of the paths around a path, itself included, the first one with a property.
structure Nearest (f : Path → Prop) (p r : Path) : Prop where
  within : p.Within r
  holds  : f r
  first  : ∀ q, p.Within q → q.Within r → f q → q = r

variable {p q r : Path}

/-! ### Going up -/

theorem IsParent.components_eq (h : p.IsParent q) : q.components = p.components.dropLast :=
  components_of_parent? h

theorem IsParent.length_eq (h : p.IsParent q) : q.components.length + 1 = p.components.length := by
  have hp : p.components ≠ [] := by
    intro hp
    have hm : p.markedComponents = [] := List.map_eq_nil_iff.mp hp
    rw [IsParent, parent?, hm] at h
    cases h
  have := List.length_pos_iff.mpr hp
  rw [h.components_eq, List.length_dropLast]
  omega

namespace Within

theorem refl (p : Path) : p.Within p :=
  ReflTransGen.refl

theorem trans (h : p.Within q) (h' : q.Within r) : p.Within r :=
  ReflTransGen.trans h h'

theorem of_isParent (h : p.IsParent q) : p.Within q :=
  .single h

theorem prefix_components (h : p.Within q) : q.components <+: p.components := by
  induction h
  case refl => exact List.prefix_rfl
  case tail hp hi => exact (hp.components_eq ▸ List.dropLast_prefix _).trans hi

-- Each step upward takes a component away.
theorem eq_of_length_le (h : p.Within q) (hl : p.components.length ≤ q.components.length) :
    p = q := by
  rcases ReflTransGen.cases_head h with rfl | ⟨above, ha, h⟩
  case inl => rfl
  case inr =>
    have := ha.length_eq
    have := (prefix_components h).length_le
    omega

theorem antisymm (h : p.Within q) (h' : q.Within p) : p = q :=
  h.eq_of_length_le h'.prefix_components.length_le

-- There is one way up only.
theorem total (h : p.Within q) (h' : p.Within r) : q.Within r ∨ r.Within q :=
  ReflTransGen.total_of_right_unique (fun _ _ _ h h' => Option.some.inj (h.symm.trans h')) h h'

end Within

-- What goes from every parent to what has that parent, and holds where there is none, holds always.
@[elab_as_elim]
theorem upward {motive : Path → Prop} (top : ∀ p, p.parent? = none → motive p)
    (step : ∀ p q, p.IsParent q → motive q → motive p) (p : Path) : motive p := by
  induction hn : p.components.length using Nat.strongRecOn generalizing p
  case ind n hi =>
    cases hp : p.parent?
    case none => exact top p hp
    case some q =>
      have := IsParent.length_eq hp
      exact step p q hp (hi _ (by omega) q rfl)

theorem within_iff_of_none (h : p.parent? = none) : p.Within q ↔ q = p := by
  constructor
  case mp =>
    intro hq
    rcases ReflTransGen.cases_head hq with rfl | ⟨above, ha, _⟩
    case inl => rfl
    case inr => cases h.symm.trans ha
  case mpr =>
    rintro rfl
    exact .refl _

theorem within_iff_of_isParent (h : p.IsParent q) : p.Within r ↔ r = p ∨ q.Within r := by
  constructor
  case mp =>
    intro hr
    rcases ReflTransGen.cases_head hr with rfl | ⟨above, ha, hr⟩
    case inl => exact .inl rfl
    case inr => exact .inr (Option.some.inj (ha.symm.trans h) ▸ hr)
  case mpr =>
    rintro (rfl | hr)
    case inl => exact .refl _
    case inr => exact (Within.of_isParent h).trans hr

/-! ### Searching upward -/

theorem ancestors_of_none (h : p.parent? = none) : p.ancestors = [p] := by
  rw [ancestors]
  cases p.components.length
  case zero => rfl
  case succ => rw [ancestorsWithin, h]

theorem ancestors_of_isParent (h : p.IsParent q) : p.ancestors = p :: q.ancestors := by
  have hp : p.parent? = some q := h
  rw [ancestors, ← h.length_eq, ancestorsWithin, hp, ancestors]

theorem mem_ancestors : q ∈ p.ancestors ↔ p.Within q := by
  induction p using upward
  case top p hp => rw [ancestors_of_none hp, List.mem_singleton, within_iff_of_none hp]
  case step p above hp hi =>
    rw [ancestors_of_isParent hp, List.mem_cons, within_iff_of_isParent hp, hi]

namespace Nearest

variable {f : Path → Prop}

theorem self (h : f p) : Nearest f p p :=
  ⟨.refl p, h, fun _ hq hr _ => hr.antisymm hq⟩

theorem iff_of_holds (h : f p) : Nearest f p r ↔ p = r :=
  ⟨fun hr => hr.first p (.refl p) hr.within h, fun he => he ▸ self h⟩

theorem iff_of_isParent (hp : p.IsParent q) (h : ¬f p) : Nearest f p r ↔ Nearest f q r := by
  constructor
  case mp =>
    intro ⟨hw, hr, hf⟩
    have hne : r ≠ p := fun he => h (he ▸ hr)
    have hq := ((within_iff_of_isParent hp).mp hw).resolve_left hne
    exact ⟨hq, hr, fun s hs => hf s <| (Within.of_isParent hp).trans hs⟩
  case mpr =>
    intro ⟨hw, hr, hf⟩
    refine ⟨(Within.of_isParent hp).trans hw, hr, fun s hs hsr hh => ?_⟩
    rcases (within_iff_of_isParent hp).mp hs with rfl | hs
    case inl => exact (h hh).elim
    case inr => exact hf s hs hsr hh

theorem not_of_none (hp : p.parent? = none) (h : ¬f p) : ¬Nearest f p r :=
  fun hr => h ((within_iff_of_none hp).mp hr.within ▸ hr.holds)

end Nearest

theorem find?_ancestors_eq_some_iff {f : Path → Bool} :
    p.ancestors.find? f = some r ↔ Nearest (f ·) p r := by
  induction p using upward
  case top p hp =>
    rw [ancestors_of_none hp]
    by_cases h : f p
    case pos => rw [List.find?_cons_of_pos h, Option.some.injEq, Nearest.iff_of_holds h]
    case neg =>
      rw [List.find?_cons_of_neg h]
      exact iff_of_false nofun (Nearest.not_of_none hp h)
  case step p above hp hi =>
    rw [ancestors_of_isParent hp]
    by_cases h : f p
    case pos => rw [List.find?_cons_of_pos h, Option.some.injEq, Nearest.iff_of_holds h]
    case neg => rw [List.find?_cons_of_neg h, hi, Nearest.iff_of_isParent hp h]

/-! ### What is around a name below a path -/

-- The path without the slashes and dots that end it.
def trimmed (p : Path) : Path :=
  match p.markedComponents.getLast? with
  | some (_, stop) => ⟨String.ofList (p.text.toList.take stop)⟩
  | none => ⟨""⟩

theorem prefix_text_join (p : Path) {name : String} (h : IsName name) :
    p.text.toList <+: (p.join name).text.toList := by
  rw [join, if_neg fun hn => h.flat (List.mem_of_head? hn)]
  split <;> simp [List.append_assoc]

theorem le_length_of_mem_markedComponents {c : Component} {stop : Nat}
    (h : (c, stop) ∈ p.markedComponents) : stop ≤ p.text.toList.length := by
  rw [markedComponents_eq] at h
  rcases List.mem_append.mp h with h | h
  case inl =>
    split at h
    case isTrue ha =>
      cases List.mem_singleton.mp h
      have ⟨rest, hr⟩ := List.head?_eq_some_iff.mp (of_decide_eq_true ha)
      rw [hr]
      exact Nat.le_add_left 1 _
    case isFalse => cases h
  case inr =>
    have ⟨front, back, hm⟩ := List.append_of_mem h
    have ⟨before, behind, hp, hne, _, hl⟩ := exists_of_marks_eq hm
    rw [hl, Nat.zero_add, ← Text.join_split '/' p.text.toList, hp]
    exact (prefix_join hne behind).length_le

theorem parent?_join (p : Path) {name : String} (h : IsName name) :
    (p.join name).parent? = some p.trimmed := by
  rw [parent?, markedComponents_join p h, trimmed]
  rcases List.eq_nil_or_concat p.markedComponents with hm | ⟨front, ⟨c, stop⟩, hm⟩
  case inl => rw [hm]; rfl
  case inr =>
    rw [List.concat_eq_append] at hm
    have hl : stop ≤ p.text.toList.length :=
      le_length_of_mem_markedComponents (c := c) (by simp [hm])
    obtain ⟨more, ht⟩ := p.prefix_text_join h
    rw [hm]
    simp [← ht, List.take_append_of_le_length hl]

theorem trimmed_join (p : Path) {name : String} (h : IsName name) :
    (p.join name).trimmed = p.join name := by
  rw [trimmed, markedComponents_join p h, List.getLast?_append]
  simp

theorem components_trimmed (p : Path) : p.trimmed.components = p.components := by
  rw [trimmed, markedComponents_eq, components_eq p]
  rcases List.eq_nil_or_concat (marks (!p.isAbsolute) 0 (Text.split '/' p.text.toList))
    with hm | ⟨front, ⟨c, stop⟩, hm⟩
  case inl =>
    rw [hm, List.append_nil]
    by_cases ha : p.isAbsolute
    case pos =>
      have ⟨rest, hr⟩ := List.head?_eq_some_iff.mp (of_decide_eq_true ha)
      rw [if_pos ha, if_pos ha, hr]
      exact (by decide : (⟨String.ofList ['/']⟩ : Path).components = [.root])
    case neg =>
      rw [if_neg ha, if_neg ha]
      rfl
  case inr =>
    rw [List.concat_eq_append] at hm
    rw [hm, ← List.append_assoc, List.getLast?_concat]
    exact components_take hm

theorem within_join (p : Path) {name : String} (h : IsName name) : (p.join name).Within p.trimmed :=
  .of_isParent (p.parent?_join h)

-- Whatever is put below a path lies within it, one name at a time.
theorem foldl_join_within {names : List String} (hp : p.trimmed = p) (h : ∀ n ∈ names, IsName n) :
    (names.foldl join p).Within p := by
  induction names generalizing p
  case nil => exact .refl p
  case cons name rest hi =>
    have ⟨hn, hr⟩ := List.forall_mem_cons.mp h
    have hw := p.within_join hn
    rw [hp] at hw
    exact (hi (p.trimmed_join hn) hr).trans hw

/-! ### What a path has at its end -/

-- What stands for nothing behind a slash.
def IsBlank (piece : List Char) : Prop :=
  piece = [] ∨ piece = ['.']

variable {before behind : List (List Char)}

theorem component?_eq_none_iff {piece : List Char} :
    component? false piece = none ↔ IsBlank piece := by
  rw [component?, IsBlank, ← List.isEmpty_iff]
  split
  case isTrue h => simp [h]
  case isFalse h =>
    split
    case isTrue hd => simp [hd]
    case isFalse hd => split <;> simp [h, hd]

-- By induction on the pieces, from the last one on.
theorem exists_blank_end (pieces : List (List Char)) :
    ∃ before behind, pieces = before ++ behind ∧ (∀ piece ∈ behind, IsBlank piece) ∧
      ∀ last ∈ before.getLast?, ¬IsBlank last := by
  induction pieces using List.reverseRecOn
  case nil => exact ⟨[], [], rfl, List.forall_mem_nil _, nofun⟩
  case append_singleton pieces piece hi =>
    by_cases hp : IsBlank piece
    case pos =>
      obtain ⟨before, behind, rfl, hb, hl⟩ := hi
      refine ⟨before, behind ++ [piece], List.append_assoc .., ?_, hl⟩
      exact List.forall_mem_append.mpr ⟨hb, List.forall_mem_singleton.mpr hp⟩
    case neg =>
      refine ⟨pieces ++ [piece], [], (List.append_nil _).symm, List.forall_mem_nil _, ?_⟩
      rw [List.getLast?_concat]
      rintro last ⟨⟩
      exact hp

theorem marks_append_blank {first : Bool} {start : Nat} (hne : before ≠ [])
    (h : ∀ piece ∈ behind, IsBlank piece) :
    marks first start (before ++ behind) = marks first start before := by
  induction behind using List.reverseRecOn
  case nil => rw [List.append_nil]
  case append_singleton behind piece hi =>
    have ⟨hb, hp⟩ := List.forall_mem_append.mp h
    have he : (before ++ behind).isEmpty = false := by simp [hne]
    have hn := component?_eq_none_iff.mpr (List.forall_mem_singleton.mp hp)
    rw [← List.append_assoc, marks_concat, he, Bool.and_false, hn, hi hb]
    exact List.append_nil _

theorem trimmed_of_append {c : Component} {last : List Char}
    (hs : Text.split '/' p.text.toList = before ++ [last] ++ behind)
    (hb : ∀ piece ∈ behind, IsBlank piece)
    (hc : component? (!p.isAbsolute && before.isEmpty) last = some c) :
    p.trimmed.text.toList = Text.join ['/'] (before ++ [last]) := by
  have hne : before ++ [last] ≠ [] := by simp
  have hp := prefix_join hne behind
  rw [← hs, Text.join_split] at hp
  rw [trimmed, markedComponents_eq, hs, marks_append_blank hne hb, marks_concat, hc, Nat.zero_add,
    ← List.append_assoc, Option.toList_some, List.map_singleton, List.getLast?_concat]
  simpa using (List.prefix_iff_eq_take.mp hp).symm

end CourseAudit.Path
