import CourseAudit.Audit.Pattern

/-!
What a part of a validation leaves in the journal, and how it ends. `Records` states both for every
host at once, since the answers of the host are part of the journal.
-/
namespace CourseAudit

variable {σ α β ι γ : Type}

-- One of two parts in turn is split where both of them are.
theorem append_eq_append_cons {xs ys before after : List α} {x : α}
    (h : xs ++ ys = before ++ x :: after) :
    (∃ there, xs = before ++ x :: there ∧ after = there ++ ys) ∨
    (∃ here, before = xs ++ here ∧ ys = here ++ x :: after) := by
  rcases List.append_eq_append_iff.1 h with ⟨here, hb, hy⟩ | ⟨there, hx, ha⟩
  case inl => exact .inr ⟨here, hb, hy⟩
  case inr =>
    cases there
    case nil => exact .inr ⟨[], by simpa using hx.symm, by simpa using ha.symm⟩
    case cons y there =>
      obtain ⟨rfl, rfl⟩ := List.cons.inj ha
      exact .inl ⟨there, hx, rfl⟩

-- The second session goes on from the first one: it has some exchanges more, and knows as much
-- about the compiler.
structure Session.Continues (s : Session σ) (events : List Event) (t : Session σ) : Prop where
  journal  : t.journal = s.journal ++ events
  compiler : t.compiler = s.compiler

theorem Session.mem_record (s : Session σ) (host : σ) (e : Event) :
    e ∈ (s.record host e).journal :=
  List.mem_append_right _ (List.mem_singleton_self e)

namespace Session.Continues

variable {s t u : Session σ} {events later : List Event}

theorem refl (s : Session σ) : s.Continues [] s :=
  ⟨(List.append_nil _).symm, rfl⟩

theorem trans (h : s.Continues events t) (h' : t.Continues later u) :
    s.Continues (events ++ later) u where
  journal  := by rw [h'.journal, h.journal, List.append_assoc]
  compiler := h'.compiler.trans h.compiler

theorem mem_journal (h : s.Continues events t) {e : Event} (he : e ∈ s.journal) :
    e ∈ t.journal :=
  h.journal ▸ List.mem_append_left _ he

theorem record (s : Session σ) (host : σ) (e : Event) : s.Continues [e] (s.record host e) :=
  ⟨rfl, rfl⟩

end Session.Continues

namespace Audit

-- Whatever the host answers, the exchanges of the part and its result are related by `P`.
def Records (x : Audit σ α) (P : List Event → Except Stop α → Prop) : Prop :=
  ∀ s, ∃ events, s.Continues events (x s).2 ∧ P events (x s).1

-- What comes of asking whether a program is there.
inductive Asked (program : String) : List Event → Except Stop Bool → Prop
  | answered (available) : Asked program [.asked program available] (.ok available)

-- What comes of invoking a tool.
inductive Invoked (i : Invocation) : List Event → Except Stop (Except ToolFailure ToolRun) → Prop
  | ran (reply) : Invoked i [.invoked i (.ran reply)] (.ok (.ok (reply.toRun i)))
  | failed (f) : Invoked i [.invoked i (.failed f)] (.ok (.error f))
  | broke (message) : Invoked i [.invoked i (.broke message)] (.error (.breakdown message))

-- What a part with a directory for builds records: nothing is done without the directory.
inductive BuildRecords (P : Path → List Event → Except Stop α → Prop) :
    List Event → Except Stop α → Prop
  | none (causes) : BuildRecords P [.noBuild] (.error (.failure (.buildDirectory causes)))
  | opened (build) {events r} :
    P build events r →
    BuildRecords P (.openedBuild build :: events ++ [.closedBuild build]) r

namespace Records

variable {x : Audit σ α} {f : α → Audit σ β}
variable {P P' : List Event → Except Stop α → Prop} {R : List Event → Except Stop β → Prop}

theorem mono (hx : x.Records P) (h : ∀ events r, P events r → P' events r) : x.Records P' :=
  fun s =>
    have ⟨events, hc, hp⟩ := hx s
    ⟨events, hc, h _ _ hp⟩

theorem pure {a : α} (h : P [] (.ok a)) : (pure a : Audit σ α).Records P :=
  fun s => ⟨[], .refl s, h⟩

theorem stop {e : Stop} (h : P [] (.error e)) : (Audit.stop e : Audit σ α).Records P :=
  fun s => ⟨[], .refl s, h⟩

-- The second part starts only if the first one does not stop the validation.
theorem bind (hx : x.Records P) (hs : ∀ events e, P events (.error e) → R events (.error e))
    (hf : ∀ events a, P events (.ok a) → (f a).Records fun later r => R (events ++ later) r) :
    (x >>= f).Records R := by
  intro s
  have ⟨events, hc, hp⟩ := hx s
  rw [bind_apply]
  rcases hr : x s with ⟨e | a, t⟩ <;> rw [hr] at hc hp
  case error => exact ⟨events, hc, hs _ _ hp⟩
  case ok =>
    have ⟨later, hc', h⟩ := hf _ _ hp t
    exact ⟨events ++ later, hc.trans hc', h⟩

theorem invoke (h : Host σ) (i : Invocation) : (Audit.invoke h i).Records (Invoked i) := by
  intro s
  refine ⟨[.invoked i (h.invoke i s.host).1], ?_⟩
  rw [Audit.invoke]
  rcases h.invoke i s.host with ⟨reply | f | message, host⟩
  case ran => exact ⟨.record .., .ran reply⟩
  case failed => exact ⟨.record .., .failed f⟩
  case broke => exact ⟨.record .., .broke message⟩

theorem isAvailable (h : Host σ) (program : String) :
    (Audit.isAvailable h program).Records (Asked program) :=
  fun _ => ⟨_, .record .., .answered _⟩

theorem withBuild {part : Path → Audit σ α} {P : Path → List Event → Except Stop α → Prop}
    (h : Host σ) (hp : ∀ build, (part build).Records (P build)) :
    (Audit.withBuild h part).Records (BuildRecords P) := by
  intro s
  rw [Audit.withBuild]
  rcases h.openBuild s.host with ⟨causes | build, host⟩
  case error => exact ⟨_, .record .., .none causes⟩
  case ok =>
    have ⟨events, hc, hr⟩ := hp build (s.record host (.openedBuild build))
    have := (Session.Continues.record s host (.openedBuild build)).trans hc
    exact ⟨_, this.trans (.record ..), .opened build hr⟩

end Records

-- Parts that are taken up one after the other. One that stops the validation is the last one.
inductive InTurn (P : ι → List Event → Except Stop γ → Prop) :
    List ι → List Event → Except Stop (List γ) → Prop
  | nil : InTurn P [] [] (.ok [])
  | stopped {i rest events e} : P i events (.error e) → InTurn P (i :: rest) events (.error e)
  | stoppedLater {i rest events later c e} :
    P i events (.ok c) → InTurn P rest later (.error e) →
    InTurn P (i :: rest) (events ++ later) (.error e)
  | cons {i rest events later c cs} :
    P i events (.ok c) → InTurn P rest later (.ok cs) →
    InTurn P (i :: rest) (events ++ later) (.ok (c :: cs))

theorem InTurn.of_append {P : ι → List Event → Except Stop γ → Prop} {items later : List ι}
    {events : List Event} {results : List γ} (h : InTurn P (items ++ later) events (.ok results)) :
    ∃ before behind done rest, events = before ++ behind ∧ results = done ++ rest ∧
      InTurn P items before (.ok done) ∧ InTurn P later behind (.ok rest) := by
  induction items generalizing events results
  case nil => exact ⟨[], events, [], results, rfl, rfl, .nil, h⟩
  case cons i items hi =>
    cases h
    case cons here _ c _ hc h =>
      have ⟨before, behind, done, rest, he, hr, hb, hl⟩ := hi h
      refine ⟨here ++ before, behind, c :: done, rest, ?_, ?_, .cons hc hb, hl⟩
      · rw [he, List.append_assoc]
      · rw [hr, List.cons_append]

theorem InTurn.forall_mem {P : ι → List Event → Except Stop γ → Prop} {Q : Event → Prop}
    {items : List ι} {events : List Event} {r : Except Stop (List γ)}
    (h : InTurn P items events r)
    (hp : ∀ i ∈ items, ∀ events r, P i events r → ∀ e ∈ events, Q e) : ∀ e ∈ events, Q e := by
  induction h
  case nil => exact List.forall_mem_nil _
  case stopped hc => exact hp _ List.mem_cons_self _ _ hc
  case stoppedLater hc _ hi =>
    exact List.forall_mem_append.2 ⟨hp _ List.mem_cons_self _ _ hc,
      hi fun i hm => hp i (List.mem_cons_of_mem _ hm)⟩
  case cons hc _ hi =>
    exact List.forall_mem_append.2 ⟨hp _ List.mem_cons_self _ _ hc,
      hi fun i hm => hp i (List.mem_cons_of_mem _ hm)⟩

-- What parts leave behind is as far as it goes what they were to leave behind.
theorem InTurn.filterMap_prefix {P : ι → List Event → Except Stop γ → Prop}
    {f : Event → Option β} {g : ι → List β} {items : List ι} {events : List Event}
    {r : Except Stop (List γ)}
    (hp : ∀ i ∈ items, ∀ events r, P i events r → events.filterMap f = g i)
    (h : InTurn P items events r) : events.filterMap f <+: items.flatMap g := by
  induction h
  case nil => exact List.prefix_rfl
  case stopped hc =>
    rw [hp _ List.mem_cons_self _ _ hc, List.flatMap_cons]
    exact List.prefix_append ..
  case stoppedLater hc _ hi =>
    rw [List.filterMap_append, hp _ List.mem_cons_self _ _ hc, List.flatMap_cons]
    exact (List.prefix_append_right_inj _).2 <| hi fun i hm => hp i (List.mem_cons_of_mem _ hm)
  case cons hc _ hi =>
    rw [List.filterMap_append, hp _ List.mem_cons_self _ _ hc, List.flatMap_cons]
    exact (List.prefix_append_right_inj _).2 <| hi fun i hm => hp i (List.mem_cons_of_mem _ hm)

end Audit
end CourseAudit
