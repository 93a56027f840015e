import Mathlib.Data.List.Infix
import CourseAudit.Artifact

/-!
The names of sources against the globs that document them. Main statement: `Role.ofFileName?_globs`
(one name has a role that its glob does not give it, and there is no other).
-/
namespace CourseAudit

namespace Text

-- The texts that a glob describes. A star stands for any text, and every other character for
-- itself, one behind the other.
inductive Globbed : List Char → List Char → Prop
  | nil : Globbed [] []
  | char {c : Char} {glob text : List Char} :
    c ≠ '*' → Globbed glob text → Globbed (c :: glob) (c :: text)
  | star {glob text : List Char} (any : List Char) :
    Globbed glob text → Globbed ('*' :: glob) (any ++ text)

variable {part glob text start ending : List Char}

theorem globbed_append (h : '*' ∉ part) :
    Globbed (part ++ glob) text ↔ ∃ rest, text = part ++ rest ∧ Globbed glob rest := by
  induction part generalizing text
  case nil => simp
  case cons c part hi =>
    have ⟨hc, hp⟩ := not_or.mp (mt List.mem_cons.mpr h)
    constructor
    case mp =>
      rintro (_ | ⟨_, hg⟩ | _)
      case char =>
        obtain ⟨rest, rfl, hr⟩ := (hi hp).mp hg
        exact ⟨rest, rfl, hr⟩
      case star => exact (hc rfl).elim
    case mpr =>
      rintro ⟨rest, rfl, hr⟩
      exact .char (Ne.symm hc) ((hi hp).mpr ⟨rest, rfl, hr⟩)

theorem globbed_star :
    Globbed ('*' :: glob) text ↔ ∃ any rest, text = any ++ rest ∧ Globbed glob rest := by
  constructor
  case mp =>
    rintro (_ | ⟨hc, _⟩ | ⟨any, hg⟩)
    case char => exact (hc rfl).elim
    case star text => exact ⟨any, text, rfl, hg⟩
  case mpr =>
    rintro ⟨any, rest, rfl, hg⟩
    exact .star any hg

theorem globbed_plain (h : '*' ∉ part) : Globbed part text ↔ text = part := by
  have hp : Globbed (part ++ []) text ↔ _ := globbed_append h
  rw [List.append_nil] at hp
  rw [hp]
  constructor
  case mp =>
    rintro ⟨rest, rfl, ⟨⟩⟩
    exact List.append_nil part
  case mpr =>
    rintro rfl
    exact ⟨[], (List.append_nil text).symm, .nil⟩

theorem globbed_ending (h : '*' ∉ ending) : Globbed ('*' :: ending) text ↔ ending <:+ text := by
  simp only [globbed_star, globbed_plain h]
  constructor
  case mp =>
    rintro ⟨any, rest, rfl, rfl⟩
    exact List.suffix_append ..
  case mpr =>
    rintro ⟨any, rfl⟩
    exact ⟨any, ending, rfl, rfl⟩

theorem globbed_start_ending (hs : '*' ∉ start) (he : '*' ∉ ending) :
    Globbed (start ++ '*' :: ending) text ↔ ∃ any, text = start ++ any ++ ending := by
  simp only [globbed_append hs, globbed_ending he]
  constructor
  case mp =>
    rintro ⟨_, rfl, any, rfl⟩
    exact ⟨any, (List.append_assoc ..).symm⟩
  case mpr =>
    rintro ⟨any, rfl⟩
    exact ⟨any ++ ending, List.append_assoc .., List.suffix_append ..⟩

end Text

namespace Role

open Text

-- The first of the globs that the naming of a role is told by; it is the one for sources that lie
-- in the directory of the pattern.
def glob (role : Role) : List Char :=
  role.naming.toList.takeWhile (· ≠ ' ')

-- What a beginning and an ending can share is the underscore between them.
theorem eq_of_secure_stem {stem : List Char} (hs : "secure_".toList <+: stem)
    (he : "_alternatives".toList <:+ stem) :
    (∃ any, stem = "secure_".toList ++ any ++ "_alternatives".toList) ∨
      stem = "secure_alternatives".toList := by
  obtain ⟨rest, rfl⟩ := hs
  rcases List.suffix_or_suffix_of_suffix he (List.suffix_append _ rest) with hr | hr
  case inl =>
    obtain ⟨any, rfl⟩ := hr
    exact .inl ⟨any, (List.append_assoc ..).symm⟩
  case inr =>
    have ht : ∀ rest ∈ "_alternatives".toList.tails,
        "_alternatives".toList <:+ "secure_".toList ++ rest →
        rest = "_alternatives".toList ∨ rest = "alternatives".toList := by decide
    rcases ht rest ((List.mem_tails ..).mpr hr) he with rfl | rfl
    case inl => exact .inl ⟨[], rfl⟩
    case inr => exact .inr rfl

-- The end of a stem, which tells the role.
def ending : Role → List Char
  | .vulnerable => "_vulnerabilities".toList
  | .secure => "_alternatives".toList
  | .exploit => "_exploits".toList

variable {stem : List Char} {name : String} {role role' : Role}

theorem ending_unique (h : role.ending <:+ stem) (h' : role'.ending <:+ stem) : role = role' := by
  have hd : ∀ role ∈ all, ∀ role' ∈ all, role.ending <:+ role'.ending → role = role' := by decide
  have ha (role : Role) : role ∈ all := by cases role <;> decide
  rcases List.suffix_or_suffix_of_suffix h h' with hs | hs
  case inl => exact hd role (ha role) role' (ha role') hs
  case inr => exact (hd role' (ha role') role (ha role) hs).symm

theorem ofStem?_eq : ofStem? stem =
    if vulnerable.ending <:+ stem then some .vulnerable
    else if "secure_".toList <+: stem ∧ secure.ending <:+ stem then some .secure
    else if exploit.ending <:+ stem then some .exploit
    else none := by
  simp only [ofStem?, Bool.and_eq_true, List.isSuffixOf_iff_suffix, List.isPrefixOf_iff_prefix]
  rfl

theorem ofStem?_eq_some_iff :
    ofStem? stem = some role ↔
      role.ending <:+ stem ∧ (role = .secure → "secure_".toList <+: stem) := by
  rw [ofStem?_eq]
  constructor
  case mp =>
    split
    case isTrue h => rintro ⟨⟩; exact ⟨h, nofun⟩
    case isFalse =>
      split
      case isTrue h => rintro ⟨⟩; exact ⟨h.2, fun _ => h.1⟩
      case isFalse =>
        split
        case isTrue h => rintro ⟨⟩; exact ⟨h, nofun⟩
        case isFalse => nofun
  case mpr =>
    rintro ⟨he, hs⟩
    have hn (role' : Role) (hne : role' ≠ role) : ¬role'.ending <:+ stem :=
      fun h => hne (ending_unique h he)
    cases role
    case vulnerable => exact if_pos he
    case secure => rw [if_neg (hn .vulnerable nofun), if_pos ⟨hs rfl, he⟩]
    case exploit =>
      rw [if_neg (hn .vulnerable nofun), if_neg fun h => hn .secure nofun h.2, if_pos he]

-- A name with an ending is a stem with the ending of the stem.
theorem suffix_append_iff {ending back text : List Char} :
    ending ++ back <:+ text ↔ ∃ stem, text = stem ++ back ∧ ending <:+ stem := by
  constructor
  case mp =>
    rintro ⟨front, rfl⟩
    exact ⟨front ++ ending, (List.append_assoc ..).symm, List.suffix_append ..⟩
  case mpr =>
    rintro ⟨_, rfl, front, rfl⟩
    exact ⟨front, (List.append_assoc ..).symm⟩

theorem ofFileName?_eq_some_iff :
    ofFileName? name = some role ↔
      ∃ stem, name.toList = stem ++ ".cpp".toList ∧ role.ending <:+ stem ∧
        (role = .secure → "secure_".toList <+: stem) := by
  simp only [ofFileName?, Option.bind_eq_some_iff, Text.stripEnd?_eq_some_iff, ofStem?_eq_some_iff]

theorem globbed_glob {text : List Char} (h : role ≠ .secure) :
    Globbed role.glob text ↔ ∃ stem, text = stem ++ ".cpp".toList ∧ role.ending <:+ stem := by
  have hg : role.glob = '*' :: (role.ending ++ ".cpp".toList) := by
    cases role
    case secure => exact absurd rfl h
    all_goals decide
  have hs : '*' ∉ role.ending ++ ".cpp".toList := by cases role <;> decide
  rw [hg, globbed_ending hs, suffix_append_iff]

theorem globbed_glob_secure {text : List Char} :
    Globbed secure.glob text ↔
      ∃ any, text = "secure_".toList ++ any ++ "_alternatives".toList ++ ".cpp".toList := by
  have hg : secure.glob = "secure_".toList ++ '*' :: ("_alternatives".toList ++ ".cpp".toList) := by
    decide
  simp only [hg, globbed_start_ending (by decide : '*' ∉ "secure_".toList)
    (by decide : '*' ∉ "_alternatives".toList ++ ".cpp".toList), List.append_assoc]

-- Every role is given as its glob says, and one name has a role besides.
theorem ofFileName?_eq_some_iff_globbed :
    ofFileName? name = some role ↔
      Globbed role.glob name.toList ∨ role = .secure ∧ name = "secure_alternatives.cpp" := by
  rw [ofFileName?_eq_some_iff]
  by_cases hr : role = .secure
  case neg =>
    rw [globbed_glob hr]
    simp [hr]
  case pos =>
    subst hr
    have hname : name = "secure_alternatives.cpp" ↔
        name.toList = "secure_alternatives".toList ++ ".cpp".toList := String.toList_inj.symm
    rw [globbed_glob_secure, hname]
    constructor
    case mp =>
      rintro ⟨stem, hn, he, hs⟩
      rcases eq_of_secure_stem (hs rfl) he with ⟨any, rfl⟩ | rfl
      case inl => exact .inl ⟨any, hn⟩
      case inr => exact .inr ⟨rfl, hn⟩
    case mpr =>
      rintro (⟨any, hn⟩ | ⟨-, hn⟩)
      case inl =>
        refine ⟨_, hn, List.suffix_append .., fun _ => ?_⟩
        rw [List.append_assoc]
        exact List.prefix_append ..
      case inr => exact ⟨_, hn, by decide, fun _ => by decide⟩

-- No name is of the globs of two roles, and the name with a role besides is of none.
theorem eq_of_globbed (h : Globbed role.glob name.toList) (h' : Globbed role'.glob name.toList) :
    role = role' := by
  have ho := ofFileName?_eq_some_iff_globbed.mpr (.inl h)
  exact Option.some.inj (ho.symm.trans (ofFileName?_eq_some_iff_globbed.mpr (.inl h')))

theorem not_globbed_of_shared (role : Role) :
    ¬Globbed role.glob "secure_alternatives.cpp".toList := by
  intro h
  have hs : some Role.secure = some role := ofFileName?_eq_some_iff_globbed.mpr (.inl h)
  cases hs
  obtain ⟨any, ht⟩ := globbed_glob_secure.mp h
  have hl := congrArg List.length ht
  simp at hl

-- What the name of a file says, for every name. The globs describe all names that have a role but
-- one, in which the beginning and the ending of a glob share a character.
theorem ofFileName?_globs (name : String) :
    (∀ role, ofFileName? name = some role ↔
      Globbed role.glob name.toList ∨ role = .secure ∧ name = "secure_alternatives.cpp") ∧
    (ofFileName? name = none ↔
      (∀ role : Role, ¬Globbed role.glob name.toList) ∧ name ≠ "secure_alternatives.cpp") ∧
    ∀ role role' : Role, Globbed role.glob name.toList → Globbed role'.glob name.toList →
      role = role' := by
  refine ⟨fun _ => ofFileName?_eq_some_iff_globbed, ?_, fun _ _ => eq_of_globbed⟩
  simp only [Option.eq_none_iff_forall_ne_some, ne_eq, ofFileName?_eq_some_iff_globbed, not_or,
    not_and, forall_and, forall_eq]

end Role

namespace Sample

-- The ending decides, whatever the name begins with.
theorem exploit_of_mixed_name :
    Role.ofFileName? "secure_alternatives_exploits.cpp" = some .exploit ∧
      ¬Text.Globbed Role.secure.glob "secure_alternatives_exploits.cpp".toList := by
  have hr : Role.exploit ≠ .secure := nofun
  have hg : Text.Globbed Role.exploit.glob "secure_alternatives_exploits.cpp".toList :=
    (Role.globbed_glob hr).mpr ⟨"secure_alternatives_exploits".toList, rfl, by decide⟩
  have ⟨hs, _, hu⟩ := Role.ofFileName?_globs "secure_alternatives_exploits.cpp"
  exact ⟨(hs .exploit).mpr (.inl hg), fun h => hr (hu _ _ hg h)⟩

-- In this name the beginning and the ending of the glob share their underscore.
theorem secure_without_glob :
    Role.ofFileName? "secure_alternatives.cpp" = some .secure ∧
      ∀ role : Role, ¬Text.Globbed role.glob "secure_alternatives.cpp".toList :=
  ⟨by decide +kernel, Role.not_globbed_of_shared⟩

end Sample
end CourseAudit
