import CourseAudit.Proofs.Ancestors
import CourseAudit.Proofs.Walks

/-!
Empty names and dots lead nowhere, so a path leads to the same place without those at its end. Main
statement: `FileTree.lister_steady`.
-/
namespace CourseAudit

open CourseAudit.Path (IsBlank)

-- The second pieces are the first ones without some that stand for nothing.
inductive Tidied : List (List Char) → List (List Char) → Prop
  | nil : Tidied [] []
  | keep (piece : List Char) {before after : List (List Char)} :
    Tidied before after → Tidied (piece :: before) (piece :: after)
  | drop {piece : List Char} {before after : List (List Char)} :
    IsBlank piece → Tidied before after → Tidied (piece :: before) after
  | clear {before after : List (List Char)} :
    Tidied before after → Tidied (['.'] :: before) ([] :: after)

namespace Tidied

variable {before after behind : List (List Char)}

theorem refl (pieces : List (List Char)) : Tidied pieces pieces := by
  induction pieces
  case nil => exact .nil
  case cons piece _ hi => exact .keep piece hi

theorem append (front : List (List Char)) (h : Tidied before after) :
    Tidied (front ++ before) (front ++ after) := by
  induction front
  case nil => exact h
  case cons piece _ hi => exact .keep piece hi

theorem drop_all (hb : ∀ piece ∈ behind, IsBlank piece) (h : Tidied before after) :
    Tidied (behind ++ before) after := by
  induction behind
  case nil => exact h
  case cons piece _ hi =>
    have ⟨hp, hr⟩ := List.forall_mem_cons.mp hb
    exact .drop hp (hi hr)

theorem join_sublist_cons (piece : List Char) (rest : List (List Char)) :
    (Text.join ['/'] rest).Sublist (Text.join ['/'] (piece :: rest)) := by
  cases rest
  case nil => exact List.nil_sublist _
  case cons => exact List.sublist_append_right ..

theorem join_cons_sublist {piece piece' : List Char} (hp : piece'.Sublist piece)
    (h : Tidied before after) (hs : (Text.join ['/'] after).Sublist (Text.join ['/'] before)) :
    (Text.join ['/'] (piece' :: after)).Sublist (Text.join ['/'] (piece :: before)) := by
  cases before
  case nil => cases h; exact hp
  case cons next before =>
    rw [Text.join_cons_cons]
    cases after
    case nil =>
      exact hp.trans <| (List.sublist_append_left ..).trans (List.sublist_append_left ..)
    case cons next' after =>
      rw [Text.join_cons_cons]
      exact (hp.append (.refl _)).append hs

theorem join_sublist (h : Tidied before after) :
    (Text.join ['/'] after).Sublist (Text.join ['/'] before) := by
  induction h
  case nil => exact .refl _
  case keep h hs => exact join_cons_sublist (.refl _) h hs
  case drop piece before _ _ _ hs => exact hs.trans (join_sublist_cons piece before)
  case clear h hs => exact join_cons_sublist (List.nil_sublist _) h hs

end Tidied

namespace FileTree

variable {t : FileTree} {root : Node} {place target : Place} {before after : List (List Char)}

-- A name that stands for nothing leads on from where it is met, if that is a directory.
theorem follow_of_blank
    {onLink : Place → String → List String → Except OsError Place} {name : String}
    {rest : List String} (hn : name = "" ∨ name = ".")
    (h : follow root true onLink place (name :: rest) = .ok target) :
    (∃ entries, root.get? place = some (.directory entries)) ∧
      follow root true onLink place rest = .ok target := by
  rw [follow] at h
  split at h
  case h_1 entries hg =>
    rw [if_pos (by simpa using hn)] at h
    exact ⟨⟨entries, hg⟩, h⟩
  all_goals cases h

theorem isBlank_ofList {piece : List Char} (h : IsBlank piece) :
    String.ofList piece = "" ∨ String.ofList piece = "." := by
  rcases h with rfl | rfl
  · exact .inl rfl
  · exact .inr rfl

-- Whoever walks on without names that stand for nothing comes to the same place. It is enough to
-- know this of what follows a link.
theorem follow_of_tidied {onLink : Place → String → List String → Except OsError Place}
    (hl : ∀ place text before after, Tidied before after →
      onLink place text (before.map String.ofList) = .ok target →
      onLink place text (after.map String.ofList) = .ok target)
    (ht : Tidied before after)
    (h : follow root true onLink place (before.map String.ofList) = .ok target) :
    follow root true onLink place (after.map String.ofList) = .ok target := by
  induction ht generalizing place
  case nil => exact h
  case keep piece before after ht hi =>
    rw [List.map_cons, follow] at h ⊢
    split at h
    case h_1 entries hg =>
      split at h
      case isTrue hb => exact (if_pos hb).trans (hi h)
      case isFalse hb =>
        rw [if_neg hb]
        split at h
        case isTrue hu => exact (if_pos hu).trans (hi h)
        case isFalse hu =>
          rw [if_neg hu]
          split at h
          case isTrue => cases h
          case isFalse hlong =>
            rw [if_neg hlong]
            split at h
            case h_1 => cases h
            case h_2 => simpa using hl _ _ _ _ ht (by simpa using h)
            case h_3 => exact hi h
    all_goals cases h
  case drop hb _ hi =>
    exact hi (follow_of_blank (isBlank_ofList hb) h).2
  case clear hi =>
    obtain ⟨⟨entries, hg⟩, h⟩ := follow_of_blank (.inr rfl) h
    rw [List.map_cons, follow, hg]
    exact hi h

theorem walk_of_tidied {links : Nat} (ht : Tidied before after)
    (h : walk root true links place (before.map String.ofList) = .ok target) :
    walk root true links place (after.map String.ofList) = .ok target := by
  induction links generalizing place before after
  case zero => exact follow_of_tidied (fun _ _ _ _ _ h => nomatch h) ht h
  case succ links hi =>
    refine follow_of_tidied (fun place text before after ht h => ?_) ht h
    split at h
    case isTrue => cases h
    case isFalse hn =>
      rw [if_neg hn]
      rw [pieces, ← List.map_append] at h ⊢
      exact hi (ht.append _) h

theorem utf8ByteSize_le_of_sublist {xs ys : List Char} (h : xs.Sublist ys) :
    (String.ofList xs).utf8ByteSize ≤ (String.ofList ys).utf8ByteSize := by
  induction h
  case slnil => exact Nat.le_refl _
  case cons _ hi =>
    rw [String.ofList_cons, String.utf8ByteSize_append]
    omega
  case cons_cons _ hi =>
    rw [String.ofList_cons, String.ofList_cons, String.utf8ByteSize_append,
      String.utf8ByteSize_append]
    omega

theorem resolve_of_tidied {p q : Path} (hq : q.text ≠ "") (ha : q.isAbsolute = p.isAbsolute)
    (ht : Tidied (Text.split '/' p.text.toList) (Text.split '/' q.text.toList))
    (h : t.resolve true p.text = .ok place) : t.resolve true q.text = .ok place := by
  have hs : q.text.toList.Sublist p.text.toList := by
    simpa only [Text.join_split] using ht.join_sublist
  have hb : q.text.utf8ByteSize ≤ p.text.utf8ByteSize := by
    simpa only [String.ofList_toList] using utf8ByteSize_le_of_sublist hs
  have hstart : startOf t.cwd q.text = startOf t.cwd p.text := by
    rw [Path.isAbsolute, Path.isAbsolute, decide_eq_decide] at ha
    simp only [startOf, ha]
  rw [resolve] at h ⊢
  rw [if_neg (by simpa using hq)]
  split at h
  case isTrue => cases h
  case isFalse =>
    split at h
    case isTrue => cases h
    case isFalse hnul =>
      have hnul : ¬q.text.toList.contains '\x00' = true :=
        fun hm => hnul (List.contains_iff_mem.mpr (hs.subset (List.contains_iff_mem.mp hm)))
      rw [if_neg hnul]
      split at h
      case isTrue => cases h
      case isFalse hlong =>
        rw [if_neg (by omega), hstart]
        exact walk_of_tidied ht h

end FileTree

/-! ### The end of a path -/

namespace Path

variable {p : Path} {before behind : List (List Char)} {name : String}

-- The pieces that are there before a name that is put below a path.
def body (pieces : List (List Char)) : List (List Char) :=
  if pieces.getLast? = some [] then pieces.dropLast else pieces

theorem body_append (hb : behind = [] → before.getLast? ≠ some [])
    (h : ∀ piece ∈ behind, IsBlank piece) :
    ∃ blanks, body (before ++ behind) = before ++ blanks ∧ ∀ piece ∈ blanks, IsBlank piece := by
  rw [body]
  split
  case isFalse => exact ⟨behind, rfl, h⟩
  case isTrue hl =>
    have hn : behind ≠ [] := by
      rintro rfl
      exact hb rfl (by simpa using hl)
    refine ⟨behind.dropLast, List.dropLast_append_of_ne_nil hn, fun piece hp => ?_⟩
    exact h piece (List.dropLast_subset _ hp)

-- What is behind the last slash ends the text.
theorem exists_join_concat (front : List (List Char)) (last : List Char) :
    ∃ start, Text.join ['/'] (front ++ [last]) = start ++ last := by
  cases front
  case nil => exact ⟨[], rfl⟩
  case cons =>
    exact ⟨_, Text.join_append (List.cons_ne_nil _ _) (List.cons_ne_nil _ _)⟩

theorem split_join (hp : p.text ≠ "") (h : IsName name) :
    Text.split '/' (p.join name).text.toList =
      body (Text.split '/' p.text.toList) ++ [name.toList] := by
  have hn : name.toList.head? ≠ some '/' := fun hn => h.flat (List.mem_of_head? hn)
  have hne : p.text.isEmpty = false := Bool.eq_false_iff.mpr (mt String.isEmpty_iff.mp hp)
  have hflat : ∀ piece ∈ Text.split '/' p.text.toList, '/' ∉ piece := fun _ =>
    Text.not_mem_of_mem_split
  have ht := Text.join_split '/' p.text.toList
  rcases List.eq_nil_or_concat (Text.split '/' p.text.toList) with hs | ⟨front, last, hs⟩
  case inl => exact (Text.split_ne_nil _ _ hs).elim
  case inr =>
    rw [List.concat_eq_append] at hs
    by_cases hl : last = []
    case pos =>
      -- The text ends in a slash.
      subst hl
      have hf : front ≠ [] := by
        rintro rfl
        rw [hs] at ht
        exact hp (String.toList_eq_nil_iff.mp ht.symm)
      rw [hs] at hflat ht
      rw [Text.join_append hf (List.cons_ne_nil _ _), Text.join, List.append_nil] at ht
      rw [join, if_neg hn, if_pos (by simp [← ht]), String.toList_append, ← ht, List.append_assoc,
        List.singleton_append, Text.split_append_cons, Text.split_of_not_mem h.flat,
        Text.split_join hf (List.forall_mem_append.mp hflat).1, ht, hs, body]
      simp
    case neg =>
      have hlast : p.text.toList.getLast? ≠ some '/' := by
        obtain ⟨start, he⟩ := exists_join_concat front last
        rw [← ht, hs, he, List.getLast?_append, List.getLast?_eq_some_getLast hl, Option.some_or]
        intro hm
        exact hflat last (by simp [hs]) (Option.some.inj hm ▸ List.getLast_mem hl)
      rw [join, if_neg hn, if_neg (by simp [hne, hlast]), body, hs, if_neg (by simpa using hl),
        ← hs]
      rw [String.toList_append, String.toList_append, List.append_assoc,
        show "/".toList = ['/'] from rfl, List.singleton_append, Text.split_append_cons,
        Text.split_of_not_mem h.flat]

theorem exists_component? {piece : List Char} (h : piece ≠ []) :
    ∃ c, component? true piece = some c := by
  rw [component?, if_neg (by simpa using h)]
  split
  case isTrue => exact ⟨_, rfl⟩
  case isFalse => split <;> exact ⟨_, rfl⟩

-- How a path begins.
theorem exists_split_eq_cons (hp : p.text ≠ "") :
    (p.isAbsolute = true ∧ ∃ tail, tail ≠ [] ∧ Text.split '/' p.text.toList = [] :: tail) ∨
    (p.isAbsolute = false ∧ ∃ head tail, head ≠ [] ∧
      Text.split '/' p.text.toList = head :: tail) := by
  have ⟨c, rest, hc⟩ := List.exists_cons_of_ne_nil (mt String.toList_eq_nil_iff.mp hp)
  have ha : p.isAbsolute = decide (c = '/') := by simp [isAbsolute, hc]
  rw [ha, hc, Text.split]
  split
  case isTrue h => exact .inl ⟨decide_eq_true h, _, Text.split_ne_nil _ _, rfl⟩
  case isFalse h =>
    refine .inr ⟨decide_eq_false h, ?_⟩
    split
    case h_1 => exact ⟨[c], [], List.cons_ne_nil _ _, rfl⟩
    case h_2 piece pieces _ => exact ⟨c :: piece, pieces, List.cons_ne_nil _ _, rfl⟩

-- The last piece that stands for something is the last one of the trimmed path.
theorem split_trimmed_of_append {c : Component} {last : List Char}
    (hs : Text.split '/' p.text.toList = before ++ [last] ++ behind)
    (hb : ∀ piece ∈ behind, IsBlank piece)
    (hc : component? (!p.isAbsolute && before.isEmpty) last = some c) :
    Text.split '/' p.trimmed.text.toList = before ++ [last] := by
  rw [trimmed_of_append hs hb hc]
  refine Text.split_join (List.append_ne_nil_of_right_ne_nil _ (List.cons_ne_nil _ _)) ?_
  intro piece hm
  exact Text.not_mem_of_mem_split (hs ▸ List.mem_append_left _ hm)

theorem trimmed_of_root {tail : List (List Char)} (ha : p.isAbsolute = true)
    (hs : Text.split '/' p.text.toList = [] :: tail) (hb : ∀ piece ∈ tail, IsBlank piece) :
    p.trimmed = ⟨"/"⟩ := by
  have hm : marks false 0 ([[]] ++ tail) = [] :=
    marks_append_blank (List.cons_ne_nil _ _) hb
  have ⟨rest, hr⟩ := List.head?_eq_some_iff.mp (of_decide_eq_true ha)
  rw [List.singleton_append] at hm
  rw [trimmed, markedComponents_eq, if_pos ha, ha, hs, Bool.not_true, hm, hr]
  rfl

-- What a path has at its end is pieces that stand for nothing. The root keeps one slash.
theorem split_trimmed (hp : p.text ≠ "") :
    (∃ before behind, Text.split '/' p.text.toList = before ++ behind ∧
      Text.split '/' p.trimmed.text.toList = before ∧ before.getLast? ≠ some [] ∧
      ∀ piece ∈ behind, IsBlank piece) ∨
    ∃ tail, tail ≠ [] ∧ Text.split '/' p.text.toList = [] :: tail ∧ p.trimmed = ⟨"/"⟩ ∧
      ∀ piece ∈ tail, IsBlank piece := by
  obtain ⟨head, tail, hs⟩ := List.exists_cons_of_ne_nil (Text.split_ne_nil '/' p.text.toList)
  obtain ⟨mid, behind, rfl, hb, hl⟩ := exists_blank_end tail
  rcases List.eq_nil_or_concat mid with rfl | ⟨front, last, rfl⟩
  case inl =>
    rw [List.nil_append] at hs
    rcases exists_split_eq_cons hp with ⟨ha, tail, ht, he⟩ | ⟨ha, head', tail, hh, he⟩
    case inl =>
      obtain ⟨rfl, rfl⟩ := List.cons.inj (hs.symm.trans he)
      exact .inr ⟨_, ht, hs, trimmed_of_root ha hs hb, hb⟩
    case inr =>
      obtain ⟨rfl, rfl⟩ := List.cons.inj (hs.symm.trans he)
      have ⟨c, hc⟩ := exists_component? hh
      refine .inl ⟨[head], behind, hs, ?_, by simpa using hh, hb⟩
      have hs : Text.split '/' p.text.toList = [] ++ [head] ++ behind := hs
      exact split_trimmed_of_append hs hb (by simpa [ha] using hc)
  case inr =>
    rw [List.concat_eq_append] at hs hl
    have hlast : ¬IsBlank last := hl last (by simp)
    have hs : Text.split '/' p.text.toList = head :: front ++ [last] ++ behind := by simpa using hs
    have ⟨c, hc⟩ := Option.ne_none_iff_exists'.mp (mt component?_eq_none_iff.mp hlast)
    refine .inl ⟨head :: front ++ [last], behind, hs, ?_, ?_, hb⟩
    case refine_1 => exact split_trimmed_of_append hs hb (by simpa using hc)
    case refine_2 =>
      rw [List.getLast?_concat]
      rintro ⟨⟩
      exact hlast (.inl rfl)

theorem tidied_trimmed (hp : p.text ≠ "") :
    Tidied (Text.split '/' p.text.toList) (Text.split '/' p.trimmed.text.toList) := by
  rcases split_trimmed hp with ⟨before, behind, hs, ht, -, hb⟩ | ⟨tail, hne, hs, ht, hb⟩
  case inl =>
    rw [hs, ht]
    simpa using (Tidied.drop_all hb .nil).append before
  case inr =>
    obtain ⟨piece, tail, rfl⟩ := List.exists_cons_of_ne_nil hne
    have ⟨hp, hb⟩ := List.forall_mem_cons.mp hb
    have hd : Tidied tail [] := by simpa using Tidied.drop_all hb .nil
    rw [hs, ht]
    rcases hp with rfl | rfl
    case inl => exact .keep [] (.keep [] hd)
    case inr => exact .keep [] (.clear hd)

theorem trimmed_text_ne (hp : p.text ≠ "") : p.trimmed.text ≠ "" := by
  intro he
  rcases split_trimmed hp with ⟨before, behind, -, ht, hl, -⟩ | ⟨tail, -, -, ht, -⟩
  case inl =>
    rw [he] at ht
    subst ht
    exact hl rfl
  case inr =>
    rw [ht] at he
    exact absurd he (by decide)

theorem tidied_trimmed_join (hp : p.text ≠ "") (h : IsName name) :
    Tidied (Text.split '/' (p.join name).text.toList)
      (Text.split '/' (p.trimmed.join name).text.toList) := by
  rw [split_join hp h, split_join (trimmed_text_ne hp) h]
  rcases split_trimmed hp with ⟨before, behind, hs, ht, hl, hb⟩ | ⟨tail, hne, hs, ht, hb⟩
  case inl =>
    have ⟨blanks, hbody, hbl⟩ := body_append (fun _ => hl) hb
    have hd := Tidied.drop_all hbl (.refl [name.toList])
    rw [hs, ht, hbody, body, if_neg hl, List.append_assoc]
    exact hd.append before
  case inr =>
    have hend : tail = [] → [[]].getLast? ≠ some ([] : List Char) := fun he => (hne he).elim
    have ⟨blanks, hbody, hbl⟩ := body_append hend hb
    have hd := Tidied.drop_all hbl (.refl [name.toList])
    rw [hs, ht, ← List.singleton_append, hbody, List.append_assoc]
    exact hd.append [[]]

theorem prefix_trimmed (p : Path) : p.trimmed.text.toList <+: p.text.toList := by
  rw [trimmed]
  split
  case h_1 => simpa using List.take_prefix ..
  case h_2 => exact List.nil_prefix

theorem isAbsolute_of_prefix {q : Path} (hq : q.text ≠ "") (h : q.text.toList <+: p.text.toList) :
    q.isAbsolute = p.isAbsolute := by
  have ⟨more, ht⟩ := h
  have ⟨c, rest, hc⟩ := List.exists_cons_of_ne_nil (mt String.toList_eq_nil_iff.mp hq)
  simp [isAbsolute, ← ht, hc]

end Path

namespace FileTree

-- Slashes and dots at the end of a path make no difference to what is listed, neither by themselves
-- nor in front of a name.
structure Lister.Steady (list : Lister) : Prop where
  trimmed : ∀ {p : Path} {entries}, list p = .ok entries → list p.trimmed = .ok entries
  join    : ∀ {p : Path} {name entries}, Path.IsName name → list (p.join name) = .ok entries →
    list (p.trimmed.join name) = .ok entries

variable {t : FileTree} {p : Path} {place : Place}

theorem resolve_trimmed (h : t.resolve true p.text = .ok place) :
    t.resolve true p.trimmed.text = .ok place := by
  have hp := text_ne_of_resolve h
  have hq := Path.trimmed_text_ne hp
  exact resolve_of_tidied hq (Path.isAbsolute_of_prefix hq p.prefix_trimmed)
    (Path.tidied_trimmed hp) h

theorem resolve_trimmed_join {name : String} (hn : Path.IsName name)
    (h : t.resolve true (p.join name).text = .ok place) :
    t.resolve true (p.trimmed.join name).text = .ok place := by
  by_cases hp : p.text = ""
  case pos =>
    obtain rfl : p = ⟨""⟩ := congrArg Path.mk hp
    exact h
  case neg =>
    have hq := Path.trimmed_text_ne hp
    have hj : (p.trimmed.join name).text ≠ "" := by
      intro he
      have hl := Path.prefix_text_join p.trimmed hn
      rw [he, String.toList_empty, List.prefix_nil, String.toList_eq_nil_iff] at hl
      exact hq hl
    have ha := calc
      (p.trimmed.join name).isAbsolute = p.trimmed.isAbsolute :=
        (Path.isAbsolute_of_prefix hq (p.trimmed.prefix_text_join hn)).symm
      _ = p.isAbsolute := Path.isAbsolute_of_prefix hq p.prefix_trimmed
      _ = (p.join name).isAbsolute := Path.isAbsolute_of_prefix hp (p.prefix_text_join hn)
    exact resolve_of_tidied hj ha (Path.tidied_trimmed_join hp hn) h

end FileTree

-- Whatever the tree holds.
theorem SoundTree.lister_steady (t : SoundTree) : t.lister.Steady where
  trimmed h := by
    have ⟨_, hr⟩ := FileTree.exists_resolve_of_list h
    exact (FileTree.list_eq (FileTree.resolve_trimmed hr) hr).trans h
  join hn h := by
    have ⟨_, hr⟩ := FileTree.exists_resolve_of_list h
    exact (FileTree.list_eq (FileTree.resolve_trimmed_join hn hr) hr).trans h

end CourseAudit
