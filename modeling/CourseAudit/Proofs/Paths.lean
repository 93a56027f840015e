import CourseAudit.Path

/-!
The components of a path that was put together or taken apart. Main statements: `components_join` (a
name below a path is one component more), `components_of_parent?` (the parent has one component
less) and `stem_flat` (what is left of the name of a file has no slash).
-/
namespace CourseAudit.Path

theorem marks_concat (first : Bool) (start : Nat) (pieces : List (List Char)) (piece : List Char) :
    marks first start (pieces ++ [piece]) =
      marks first start pieces ++ (component? (first && pieces.isEmpty) piece).toList.map
        (·, start + (Text.join ['/'] (pieces ++ [piece])).length) := by
  induction pieces generalizing first start
  case nil =>
    simp only [List.nil_append, marks, List.isEmpty_nil, Bool.and_true, Text.join]
    cases component? first piece <;> rfl
  case cons next rest hi =>
    have hl : start + next.length + 1 + (Text.join ['/'] (rest ++ [piece])).length =
        start + (Text.join ['/'] (next :: (rest ++ [piece]))).length := by
      have hne : rest ++ [piece] ≠ [] := by simp
      obtain ⟨head, tail, ht⟩ := List.exists_cons_of_ne_nil hne
      rw [ht, Text.join_cons_cons]
      simp only [List.length_append, List.length_singleton]
      omega
    simp only [List.cons_append, marks, List.isEmpty_cons, Bool.and_false, hi, hl]
    cases component? first next <;> rfl

theorem markedComponents_eq (p : Path) :
    p.markedComponents = (if p.isAbsolute then [(.root, 1)] else []) ++
      marks (!p.isAbsolute) 0 (Text.split '/' p.text.toList) := by
  rw [markedComponents]
  cases p.isAbsolute <;> rfl

theorem components_eq (p : Path) :
    p.components = (if p.isAbsolute then [.root] else []) ++
      (marks (!p.isAbsolute) 0 (Text.split '/' p.text.toList)).map (·.1) := by
  rw [components, markedComponents_eq, List.map_append]
  cases p.isAbsolute <;> rfl

-- What can stand between two slashes and is nothing but a name.
structure IsName (name : String) : Prop where
  flat     : '/' ∉ name.toList
  nonempty : name ≠ ""
  ne_here  : name ≠ "."
  ne_up    : name ≠ ".."

theorem IsName.component?_eq {name : String} (h : IsName name) (first : Bool) :
    component? first name.toList = some (.name name) := by
  have he : ¬name.toList.isEmpty = true := by simpa using h.nonempty
  have hh : name.toList ≠ ['.'] := fun hc => h.ne_here (String.toList_inj.1 hc)
  have hu : name.toList ≠ ['.', '.'] := fun hc => h.ne_up (String.toList_inj.1 hc)
  rw [component?, if_neg he, if_neg hh, if_neg hu, String.ofList_toList]

-- The mark of a name behind the last slash is the length of the text.
theorem markedComponents_of_slash {p : Path} (front : List Char) {name : String} (h : IsName name)
    (hp : p.text.toList = front ++ '/' :: name.toList) :
    p.markedComponents = (if p.isAbsolute then [(.root, 1)] else []) ++
      marks (!p.isAbsolute) 0 (Text.split '/' front) ++ [(.name name, p.text.toList.length)] := by
  have hs : Text.split '/' p.text.toList = Text.split '/' front ++ [name.toList] := by
    rw [hp, Text.split_append_cons, Text.split_of_not_mem h.flat]
  rw [markedComponents_eq, hs, marks_concat, ← hs, Text.join_split, h.component?_eq, Nat.zero_add,
    List.append_assoc]
  rfl

theorem components_of_slash {p : Path} (front : List Char) {name : String} (h : IsName name)
    (hp : p.text.toList = front ++ '/' :: name.toList) :
    p.components = (if p.isAbsolute then [.root] else []) ++
      (marks (!p.isAbsolute) 0 (Text.split '/' front)).map (·.1) ++ [.name name] := by
  rw [components, markedComponents_of_slash front h hp, List.map_append, List.map_append]
  cases p.isAbsolute <;> rfl

theorem markedComponents_join (p : Path) {name : String} (h : IsName name) :
    (p.join name).markedComponents =
      p.markedComponents ++ [(.name name, (p.join name).text.toList.length)] := by
  have hn : name.toList.head? ≠ some '/' := fun hn => h.flat (List.mem_of_head? hn)
  rw [join, if_neg hn]
  rcases List.eq_nil_or_concat p.text.toList with hp | ⟨front, c, hp⟩
  case inl =>
    obtain rfl : p = ⟨""⟩ := congrArg Path.mk (String.toList_eq_nil_iff.1 hp)
    have hj : (⟨""⟩ : Path).text ++ name = name := String.empty_append
    rw [if_pos (by simp), hj, markedComponents_eq]
    simp [isAbsolute, hn, Text.split_of_not_mem h.flat, marks, h.component?_eq]
    rfl
  case inr =>
    rw [List.concat_eq_append] at hp
    have hne : p.text.isEmpty = false := by
      rw [← Bool.not_eq_true, String.isEmpty_iff]
      intro he
      simp [he] at hp
    by_cases hc : c = '/'
    case pos =>
      subst hc
      rw [if_pos (by simp [hp])]
      have ha : (⟨p.text ++ name⟩ : Path).isAbsolute = p.isAbsolute := by
        simp [isAbsolute, hp]
      rw [markedComponents_of_slash front h (by simp [hp]), ha, markedComponents_eq p, hp,
        Text.split_append_cons]
      simp [Text.split, marks_concat, component?]
    case neg =>
      rw [if_neg (by simp [hp, hc, hne])]
      have ha : (⟨p.text ++ "/" ++ name⟩ : Path).isAbsolute = p.isAbsolute := by
        simp [isAbsolute, hp]
      rw [markedComponents_of_slash p.text.toList h (by simp), ha, ← markedComponents_eq]

-- A name that is put below a path is one component more.
theorem components_join (p : Path) {name : String} (h : IsName name) :
    (p.join name).components = p.components ++ [.name name] := by
  rw [components, markedComponents_join p h, List.map_append]
  rfl

theorem exists_component?_of_mem_marks {first : Bool} {start : Nat} {pieces : List (List Char)}
    {c : Component} (h : c ∈ (marks first start pieces).map (·.1)) :
    ∃ piece ∈ pieces, ∃ first, component? first piece = some c := by
  induction pieces generalizing first start
  case nil => cases h
  case cons piece rest hi =>
    rw [marks] at h
    split at h
    case h_1 c' hc =>
      rcases List.mem_cons.1 h with rfl | h
      case inl => exact ⟨piece, List.mem_cons_self, first, hc⟩
      case inr =>
        obtain ⟨next, hn, hc⟩ := hi h
        exact ⟨next, List.mem_cons_of_mem _ hn, hc⟩
    case h_2 =>
      obtain ⟨next, hn, hc⟩ := hi h
      exact ⟨next, List.mem_cons_of_mem _ hn, hc⟩

theorem flat_of_name_mem_components {p : Path} {n : String} (h : .name n ∈ p.components) :
    '/' ∉ n.toList := by
  rw [components_eq] at h
  rcases List.mem_append.1 h with h | h
  case inl => split at h <;> simp at h
  case inr =>
    obtain ⟨piece, hp, first, hc⟩ := exists_component?_of_mem_marks h
    rw [component?] at hc
    split at hc
    case isTrue => cases hc
    case isFalse =>
      split at hc
      case isTrue => split at hc <;> cases hc
      case isFalse =>
        split at hc <;> cases hc
        rw [String.toList_ofList]
        exact Text.not_mem_of_mem_split hp

theorem fileName_flat (p : Path) : '/' ∉ p.fileName.toList := by
  rw [fileName, fileName?]
  split
  case h_1 n hn => exact flat_of_name_mem_components (List.mem_of_getLast? hn)
  case h_2 => nofun

theorem stem_flat (p : Path) : '/' ∉ p.stem.toList := by
  rw [stem, stemOf]
  split
  case isTrue => exact p.fileName_flat
  case isFalse =>
    rw [String.toList_ofList]
    exact fun h => p.fileName_flat (List.mem_of_mem_take h)

-- A mark is the length of the pieces up to the one that it is the mark of.
theorem exists_of_marks_eq {first : Bool} {start stop : Nat} {pieces : List (List Char)}
    {front back : List (Component × Nat)} {c : Component}
    (h : marks first start pieces = front ++ (c, stop) :: back) :
    ∃ before behind, pieces = before ++ behind ∧ before ≠ [] ∧
      marks first start before = front ++ [(c, stop)] ∧
      stop = start + (Text.join ['/'] before).length := by
  induction pieces generalizing first start front
  case nil => simp [marks] at h
  case cons piece rest hi =>
    -- The mark is one of the pieces behind the first.
    have hrest {front'}
        (h : marks false (start + piece.length + 1) rest = front' ++ (c, stop) :: back) :
        ∃ before behind, piece :: rest = before ++ behind ∧ before ≠ [] ∧
          marks first start before = (marks first start [piece]) ++ front' ++ [(c, stop)] ∧
          stop = start + (Text.join ['/'] before).length := by
      obtain ⟨before, behind, rfl, hne, hm, hl⟩ := hi h
      refine ⟨piece :: before, behind, rfl, by simp, ?_, ?_⟩
      · simp only [marks, hm]
        cases component? first piece <;> rfl
      · obtain ⟨next, before, rfl⟩ := List.exists_cons_of_ne_nil hne
        rw [hl, Text.join_cons_cons]
        simp only [List.length_append, List.length_singleton]
        omega
    rw [marks] at h
    cases hc : component? first piece
    case none =>
      simp only [hc] at h
      have ⟨before, behind, hp, hne, hm, hl⟩ := hrest h
      exact ⟨before, behind, hp, hne, by simpa [marks, hc] using hm, hl⟩
    case some c' =>
      simp only [hc] at h
      cases front
      case nil =>
        rw [List.nil_append] at h
        obtain ⟨h, _⟩ := List.cons.inj h
        cases h
        exact ⟨[piece], rest, rfl, by simp, by simp [marks, hc], rfl⟩
      case cons mark front =>
        rw [List.cons_append] at h
        have ⟨hmark, ht⟩ := List.cons.inj h
        subst hmark
        have ⟨before, behind, hp, hne, hm, hl⟩ := hrest ht
        exact ⟨before, behind, hp, hne, by simpa [marks, hc] using hm, hl⟩

-- The name that a list of components ends in; a path that ends in none has no file name.
def lastName (components : List Component) : String :=
  match components.getLast? with
  | some (.name n) => n
  | _ => ""

theorem fileName_eq (p : Path) : p.fileName = lastName p.components := by
  rw [fileName, fileName?, lastName]
  cases p.components.getLast?
  case none => rfl
  case some c => cases c <;> rfl

theorem lastName_concat (cs : List Component) (n : String) : lastName (cs ++ [.name n]) = n := by
  rw [lastName, List.getLast?_append]
  rfl

theorem fileName_join (p : Path) {name : String} (h : IsName name) :
    (p.join name).fileName = name := by
  rw [fileName_eq, components_join p h, lastName_concat]

theorem lastName_append {cs : List Component} (h : cs ≠ []) (front : List Component) :
    lastName (front ++ cs) = lastName cs := by
  rw [lastName, lastName, List.getLast?_append, List.getLast?_eq_some_getLast h]
  rfl

theorem prefix_join {before : List (List Char)} (hb : before ≠ []) (behind : List (List Char)) :
    Text.join ['/'] before <+: Text.join ['/'] (before ++ behind) := by
  cases behind
  case nil => simp
  case cons next rest =>
    rw [Text.join_append hb (List.cons_ne_nil next rest), List.append_assoc]
    exact List.prefix_append ..

-- The text up to a mark has the components up to the one that it is the mark of.
theorem components_take {p : Path} {front back : List (Component × Nat)} {c : Component}
    {stop : Nat}
    (h : marks (!p.isAbsolute) 0 (Text.split '/' p.text.toList) = front ++ (c, stop) :: back) :
    (⟨String.ofList (p.text.toList.take stop)⟩ : Path).components =
      (if p.isAbsolute then [.root] else []) ++ (front ++ [(c, stop)]).map (·.1) := by
  obtain ⟨before, behind, hp, hne, hm, hl⟩ := exists_of_marks_eq h
  have hflat : ∀ piece ∈ before, '/' ∉ piece := by
    intro piece hb
    have hm : piece ∈ Text.split '/' p.text.toList := hp ▸ List.mem_append_left _ hb
    exact Text.not_mem_of_mem_split hm
  have hsplit := Text.split_join hne hflat
  have hprefix : Text.join ['/'] before <+: p.text.toList := by
    rw [← Text.join_split '/' p.text.toList, hp]
    exact prefix_join hne behind
  have htake : p.text.toList.take stop = Text.join ['/'] before := by
    rw [hl, Nat.zero_add]
    exact List.prefix_iff_eq_take.mp hprefix |>.symm
  have hsome : Text.join ['/'] before ≠ [] := by
    intro he
    rw [he] at hsplit
    simp [← hsplit, Text.split, marks, component?] at hm
  have ha : (⟨String.ofList (Text.join ['/'] before)⟩ : Path).isAbsolute = p.isAbsolute := by
    obtain ⟨x, rest, hx⟩ := List.exists_cons_of_ne_nil hsome
    obtain ⟨more, hmore⟩ := hprefix
    simp [isAbsolute, ← hmore, hx]
  rw [htake, components_eq, ha, String.toList_ofList, hsplit, hm]

-- The same with the mark of the root among the others.
theorem components_take_marked {p : Path} {front back : List (Component × Nat)} {c : Component}
    {stop : Nat} (h : p.markedComponents = front ++ (c, stop) :: back) :
    (⟨String.ofList (p.text.toList.take stop)⟩ : Path).components =
      (front ++ [(c, stop)]).map (·.1) := by
  rw [markedComponents_eq] at h
  cases ha : p.isAbsolute
  case false =>
    have hm : marks (!p.isAbsolute) 0 (Text.split '/' p.text.toList) =
        front ++ (c, stop) :: back := by
      rw [ha] at h ⊢
      exact h
    rw [components_take hm, ha]
    rfl
  case true =>
    rw [if_pos ha] at h
    cases front
    case nil =>
      obtain ⟨hroot, _⟩ := List.cons.inj h
      cases hroot
      obtain ⟨tail, ht⟩ := List.head?_eq_some_iff.mp (of_decide_eq_true ha)
      rw [ht]
      simp [components_eq, isAbsolute, Text.split, marks, component?]
    case cons mark front =>
      obtain ⟨rfl, hm⟩ := List.cons.inj h
      rw [components_take hm, if_pos ha]
      rfl

-- The parent has all components but the last.
theorem components_of_parent? {p q : Path} (h : p.parent? = some q) :
    q.components = p.components.dropLast := by
  rw [parent?] at h
  split at h
  case h_1 => cases h
  case h_2 => cases h
  case h_3 x _ hx =>
    cases h
    have hp : p.components = [x.1] := by
      rw [components, List.reverse_eq_iff.mp hx]
      rfl
    rw [hp]
    rfl
  case h_4 x c stop rest _ hx =>
    cases h
    have hm : p.markedComponents = rest.reverse ++ (c, stop) :: [x] := by
      rw [List.reverse_eq_iff.mp hx]
      simp
    rw [components_take_marked hm, components, hm]
    simp

-- What leads on from where a path starts.
def isStep : Component → Bool
  | .name _ | .up => true
  | .root | .here => false

def steps (p : Path) : List Component :=
  p.components.filter isStep

theorem isStep_of_component? {piece : List Char} {c : Component}
    (h : component? false piece = some c) : isStep c = true := by
  rw [component?] at h
  split at h
  case isTrue => cases h
  case isFalse =>
    split at h
    case isTrue => cases h
    case isFalse => split at h <;> cases h <;> rfl

theorem filter_marks (start : Nat) (pieces : List (List Char)) :
    ((marks false start pieces).map (·.1)).filter isStep =
      (marks false start pieces).map (·.1) := by
  rw [List.filter_eq_self]
  intro c hc
  induction pieces generalizing start
  case nil => cases hc
  case cons piece rest hi =>
    rw [marks] at hc
    cases hp : component? false piece <;> simp only [hp] at hc
    case none => exact hi _ hc
    case some c' =>
      rcases List.mem_cons.mp hc with rfl | hc
      · exact isStep_of_component? hp
      · exact hi _ hc

-- Only the first component can be none.
theorem components_eq_steps (p : Path) :
    p.components = p.steps ∨ ∃ c, isStep c = false ∧ p.components = c :: p.steps := by
  rw [steps, components_eq]
  cases ha : p.isAbsolute
  case true => exact .inr ⟨.root, rfl, by simp [isStep, filter_marks]⟩
  case false =>
    simp only [Bool.not_false, Bool.false_eq_true, if_false, List.nil_append]
    cases Text.split '/' p.text.toList
    case nil => exact .inl rfl
    case cons piece rest =>
      rw [marks]
      cases hp : component? true piece
      case none => exact .inl (filter_marks ..).symm
      case some c =>
        simp only [List.map_cons, List.filter_cons, filter_marks]
        cases hc : isStep c
        case true => exact .inl rfl
        case false => exact .inr ⟨c, hc, rfl⟩

theorem lastName_cons {c : Component} (h : isStep c = false) (cs : List Component) :
    lastName (c :: cs) = lastName cs := by
  cases cs
  case nil => cases c <;> first | rfl | cases h
  case cons next cs => rw [lastName, lastName, List.getLast?_cons_cons]

theorem fileName_eq_steps (p : Path) : p.fileName = lastName p.steps := by
  rw [fileName_eq]
  rcases p.components_eq_steps with hc | ⟨c, hs, hc⟩
  · rw [hc]
  · rw [hc, lastName_cons hs]

theorem lastName_dropLast_components (p : Path) :
    lastName p.components.dropLast = lastName p.steps.dropLast := by
  rcases p.components_eq_steps with hc | ⟨c, hs, hc⟩
  · rw [hc]
  · rw [hc]
    cases p.steps
    case nil => rfl
    case cons next rest => rw [List.dropLast_cons_cons, lastName_cons hs]

-- Without a parent there is at most the root.
theorem steps_of_parent?_eq_none {p : Path} (h : p.parent? = none) : p.steps = [] := by
  rw [parent?] at h
  split at h
  case h_1 hx =>
    rw [steps, components, List.reverse_eq_nil_iff.mp hx]
    rfl
  case h_2 stop rest hx =>
    have hl : p.components.getLast? = some .root := by
      rw [components, List.getLast?_map, ← List.head?_reverse, hx]
      rfl
    cases hs : p.steps
    case nil => rfl
    case cons =>
      have hm : p.steps.getLast? = some .root := by
        rcases p.components_eq_steps with hc | ⟨c, _, hc⟩
        · rwa [← hc]
        · rwa [hc, hs, List.getLast?_cons_cons, ← hs] at hl
      exact nomatch (List.mem_filter.mp (List.mem_of_getLast? hm)).2
  all_goals cases h

-- The directory around what lies two names below a path.
theorem fileName_parent?_join (p : Path) {above name : String} (ha : IsName above)
    (hn : IsName name) : ((p.join above).join name).parent?.map fileName = some above := by
  have hc : ((p.join above).join name).components =
      p.components ++ [.name above] ++ [.name name] := by
    rw [components_join _ hn, components_join _ ha]
  cases hp : ((p.join above).join name).parent?
  case none =>
    have hs := steps_of_parent?_eq_none hp
    rw [steps, hc, List.filter_append] at hs
    exact (List.append_ne_nil_of_right_ne_nil _ (by simp [isStep]) hs).elim
  case some q =>
    rw [Option.map_some, fileName_eq, components_of_parent? hp, hc, List.dropLast_concat,
      lastName_concat]

end CourseAudit.Path
