import CourseAudit.FileTree.Resolve
import CourseAudit.Proofs.Paths

/-!
Where paths lead to. A path below a directory leads to a place that depends on the directory, and
not on the path by which the directory was reached. Main statement: `resolve_join_eq`.
-/
namespace CourseAudit.FileTree

variable {root : Node} {place mid target target' : Place} {names more : List String}

-- What one name leads to: a place, and the names that a link has put before those that are left.
def hop (root : Node) (place : Place) (name : String) : Option (Place × List String) :=
  match root.get? place with
  | some (.directory entries) =>
    if name = "" || name = "." then some (place, [])
    else if name = ".." then some (place.dropLast, [])
    else
      match Node.find? name entries with
      | none => none
      | some (.link text) => some (startOf place text, pieces text)
      | some _ => some (place ++ [name], [])
  | _ => none

-- Names lead from one place to another, over any number of links.
inductive Leads (root : Node) : Place → List String → Place → Prop
  | done {place : Place} : Leads root place [] place
  | hop {place next target : Place} {name : String} {rest more : List String} :
    hop root place name = some (next, more) → Leads root next (more ++ rest) target →
    Leads root place (name :: rest) target

namespace Leads

-- There is one way only.
theorem unique (h : Leads root place names target) (h' : Leads root place names target') :
    target = target' := by
  induction h
  case done => cases h'; rfl
  case hop hh _ hi =>
    cases h'
    case hop hh' h' =>
      cases hh.symm.trans hh'
      exact hi h'

-- Names behind others go on from where the others lead to.
theorem exists_of_append (h : Leads root place (names ++ more) target) :
    ∃ mid, Leads root place names mid ∧ Leads root mid more target := by
  generalize hn : names ++ more = all at h
  induction h generalizing names
  case done =>
    obtain ⟨rfl, rfl⟩ := List.append_eq_nil_iff.mp hn
    exact ⟨_, .done, .done⟩
  case hop put hh h hi =>
    cases names
    case nil =>
      obtain rfl : more = _ := hn
      exact ⟨_, .done, .hop hh h⟩
    case cons name names =>
      obtain ⟨rfl, rfl⟩ := List.cons.inj hn
      have ⟨mid, hm, ht⟩ := hi (List.append_assoc put names more)
      exact ⟨mid, .hop hh hm, ht⟩

theorem of_append (h : Leads root place names mid) (h' : Leads root place (names ++ more) target) :
    Leads root mid more target := by
  have ⟨_, hm, ht⟩ := h'.exists_of_append
  rwa [h.unique hm]

-- Nothing between two slashes leads nowhere else.
theorem eq_of_empty (h : Leads root place [""] target) : place = target := by
  cases h
  case hop hh h =>
    rw [FileTree.hop] at hh
    split at hh
    case h_1 => cases hh; cases h; rfl
    case h_2 => cases hh

end Leads

-- A walk that comes to its end has gone along the names. It is enough to know this of what follows
-- a link.
theorem leads_of_follow {onLink : Place → String → List String → Except OsError Place}
    (hl : ∀ place text rest, onLink place text rest = .ok target →
      Leads root (startOf place text) (pieces text ++ rest) target)
    (h : follow root true onLink place names = .ok target) : Leads root place names target := by
  induction names generalizing place
  case nil => cases h; exact .done
  case cons name rest hi =>
    rw [follow] at h
    split at h
    case h_1 entries hg =>
      split at h
      case isTrue hn =>
        have hh : hop root place name = some (place, []) := by
          rw [hop, hg]
          exact if_pos hn
        exact .hop hh (hi h)
      case isFalse hn =>
        split at h
        case isTrue hu =>
          have hh : hop root place name = some (place.dropLast, []) := by
            simp only [hop, hg, if_neg hn, if_pos hu]
          exact .hop hh (hi h)
        case isFalse hu =>
          split at h
          case isTrue => cases h
          case isFalse =>
            split at h
            case h_1 => cases h
            case h_2 text hf =>
              have hh : hop root place name = some (startOf place text, pieces text) := by
                simp only [hop, hg, if_neg hn, if_neg hu, hf]
              exact .hop hh <| hl _ _ _ (by simpa using h)
            case h_3 node hne hf =>
              have hh : hop root place name = some (place ++ [name], []) := by
                simp only [hop, hg, if_neg hn, if_neg hu, hf]
              exact .hop hh (hi h)
    all_goals cases h

theorem leads_of_walk {links : Nat} (h : walk root true links place names = .ok target) :
    Leads root place names target := by
  induction links generalizing place names
  case zero =>
    refine leads_of_follow ?_ h
    nofun
  case succ links hi =>
    refine leads_of_follow (fun place text rest h => ?_) h
    split at h
    case isTrue => cases h
    case isFalse => exact hi h

variable {t : FileTree}

theorem leads_of_resolve {path : String} (h : t.resolve true path = .ok target) :
    Leads t.root (startOf t.cwd path) (pieces path) target := by
  rw [resolve] at h
  split at h
  case isTrue => cases h
  case isFalse =>
    split at h
    case isTrue => cases h
    case isFalse =>
      split at h
      case isTrue => cases h
      case isFalse => exact leads_of_walk h

theorem text_ne_of_resolve {path : String} (h : t.resolve true path = .ok target) : path ≠ "" := by
  rintro rfl
  cases h

-- A name below a path leads on from where the path leads to.
theorem leads_of_join {p : Path} {name : String} (hn : '/' ∉ name.toList) (hp : p.text ≠ "")
    (h : Leads root place (pieces p.text) mid)
    (h' : Leads root place (pieces (p.join name).text) target) : Leads root mid [name] target := by
  have hnr : ¬name.toList.head? = some '/' := fun h => hn (List.mem_of_head? h)
  have hname : (Text.split '/' name.toList).map String.ofList = [name] := by
    rw [Text.split_of_not_mem hn, List.map_singleton, String.ofList_toList]
  rcases List.eq_nil_or_concat p.text.toList with he | ⟨front, c, hc⟩
  case inl => exact (hp <| String.toList_eq_nil_iff.mp he).elim
  case inr =>
    rw [List.concat_eq_append] at hc
    rw [Path.join, if_neg hnr] at h'
    by_cases hs : c = '/'
    case pos =>
      subst hs
      rw [if_pos (by simp [hc]), pieces, String.toList_append, hc, List.append_assoc,
        List.singleton_append, Text.split_append_cons, List.map_append, hname] at h'
      rw [pieces, hc, Text.split_append_cons, List.map_append] at h
      obtain ⟨_, hf, hm⟩ := h.exists_of_append
      cases hm.eq_of_empty
      exact hf.of_append h'
    case neg =>
      rw [if_neg (by simp [hc, hs, hp]), pieces, String.toList_append, String.toList_append,
        List.append_assoc, show "/".toList = ['/'] from rfl, List.singleton_append,
        Text.split_append_cons, List.map_append, hname] at h'
      exact h.of_append h'

theorem startOf_join {p : Path} {name : String} (hn : '/' ∉ name.toList) (hp : p.text ≠ "")
    (base : Place) : startOf base (p.join name).text = startOf base p.text := by
  have hnr : ¬name.toList.head? = some '/' := fun h => hn (List.mem_of_head? h)
  have ⟨c, rest, hc⟩ := List.exists_cons_of_ne_nil (mt String.toList_eq_nil_iff.mp hp)
  simp only [startOf, Path.join, if_neg hnr]
  split <;> simp only [String.toList_append, hc, List.cons_append, List.head?_cons]

-- Two paths to one place lead to one place below it.
theorem resolve_join_eq {p q : Path} {name : String} (hn : '/' ∉ name.toList)
    (hp : t.resolve true p.text = .ok place) (hq : t.resolve true q.text = .ok place)
    (hp' : t.resolve true (p.join name).text = .ok target)
    (hq' : t.resolve true (q.join name).text = .ok target') : target = target' := by
  have hlp := leads_of_resolve hp'
  have hlq := leads_of_resolve hq'
  rw [startOf_join hn (text_ne_of_resolve hp)] at hlp
  rw [startOf_join hn (text_ne_of_resolve hq)] at hlq
  exact (leads_of_join hn (text_ne_of_resolve hp) (leads_of_resolve hp) hlp).unique
    (leads_of_join hn (text_ne_of_resolve hq) (leads_of_resolve hq) hlq)

end CourseAudit.FileTree
