import CourseAudit.Failure
import CourseAudit.Tool.Basic

/-!
The machine that tools run on. Its answers may depend on all that happened before, so it has a state
of its own, of any type.
-/
namespace CourseAudit

-- What a finished tool leaves behind.
structure Reply where
  exitCode : Option Int
  output : String
  timedOut : Bool
  deriving DecidableEq, Repr

namespace Reply

def exitedCleanly (r : Reply) : Bool :=
  !r.timedOut && r.exitCode = some 0

def toRun (r : Reply) (i : Invocation) : ToolRun :=
  ⟨i.tool, i.commandLine, r.exitCode, r.output, r.timedOut⟩

end Reply

-- What comes of invoking a tool. The machine itself can break down, with or without a word.
inductive Answer where
  | ran (reply : Reply)
  | failed (failure : ToolFailure)
  | broke (message : Option String)
  deriving DecidableEq, Repr

structure Host (σ : Type) where
  isAvailable : String → σ → Bool × σ
  invoke : Invocation → σ → Answer × σ
  -- Makes an empty directory for the files of a build, or tells the causes why there is none.
  openBuild : σ → Except (List String) Path × σ
  closeBuild : Path → σ → σ

-- One exchange with the host.
inductive Event where
  | asked (program : String) (available : Bool)
  | invoked (invocation : Invocation) (answer : Answer)
  | openedBuild (directory : Path)
  | noBuild
  | closedBuild (directory : Path)
  deriving DecidableEq, Repr

namespace Event

def invocation? : Event → Option (Invocation × Answer)
  | .invoked i a => some (i, a)
  | _ => none

end Event

-- The state between two exchanges: that of the host, what is known of the compiler (nothing yet, no
-- version, or a version), and all exchanges so far.
structure Session (σ : Type) where
  host : σ
  compiler : Option (Option UInt32)
  journal : List Event

namespace Session

def initial {σ : Type} (host : σ) : Session σ := ⟨host, none, []⟩

def record {σ : Type} (s : Session σ) (host : σ) (e : Event) : Session σ :=
  { s with host, journal := s.journal ++ [e] }

end Session

-- Why the validation of a pattern stops before its end.
inductive Stop where
  | failure (f : AuditFailure)
  | breakdown (message : Option String)
  deriving DecidableEq, Repr

namespace Stop

def message : Stop → String
  | .failure f => f.chain
  | .breakdown message => "validation panicked: " ++ message.getD "unknown panic payload"

end Stop

-- A part of a validation. Whatever happened stays in the session, also when the validation stops.
def Audit (σ α : Type) := Session σ → Except Stop α × Session σ

namespace Audit

variable {σ α β : Type}

protected def pure (a : α) : Audit σ α := fun s => (.ok a, s)

protected def bind (x : Audit σ α) (f : α → Audit σ β) : Audit σ β := fun s =>
  match x s with
  | (.ok a, s) => f a s
  | (.error e, s) => (.error e, s)

instance : Monad (Audit σ) where
  pure := Audit.pure
  bind := Audit.bind

@[simp]
theorem pure_apply (a : α) (s : Session σ) : (pure a : Audit σ α) s = (.ok a, s) :=
  rfl

theorem bind_apply (x : Audit σ α) (f : α → Audit σ β) (s : Session σ) :
    (x >>= f) s =
      match x s with
      | (.ok a, s) => f a s
      | (.error e, s) => (.error e, s) :=
  rfl

theorem bind_of_ok {x : Audit σ α} {f : α → Audit σ β} {s t : Session σ} {a : α}
    (h : x s = (.ok a, t)) : (x >>= f) s = f a t := by
  rw [bind_apply, h]

theorem bind_of_error {x : Audit σ α} {f : α → Audit σ β} {s t : Session σ} {e : Stop}
    (h : x s = (.error e, t)) : (x >>= f) s = (.error e, t) := by
  rw [bind_apply, h]

def stop (e : Stop) : Audit σ α := fun s => (.error e, s)

def fail (f : AuditFailure) : Audit σ α := stop (.failure f)

def ofExcept : Except AuditFailure α → Audit σ α
  | .ok a => pure a
  | .error f => fail f

def isAvailable (h : Host σ) (program : String) : Audit σ Bool := fun s =>
  let (available, host) := h.isAvailable program s.host
  (.ok available, s.record host (.asked program available))

-- Invokes a tool. Only a breakdown of the machine stops the validation here.
def invoke (h : Host σ) (i : Invocation) : Audit σ (Except ToolFailure ToolRun) := fun s =>
  let (answer, host) := h.invoke i s.host
  let s := s.record host (.invoked i answer)
  match answer with
  | .ran reply => (.ok (.ok (reply.toRun i)), s)
  | .failed f => (.ok (.error f), s)
  | .broke message => (.error (.breakdown message), s)

-- Runs a part with a directory for builds, which is removed however the part ends.
def withBuild (h : Host σ) (part : Path → Audit σ α) : Audit σ α := fun s =>
  match h.openBuild s.host with
  | (.error causes, host) =>
    (.error (.failure (.buildDirectory causes)), s.record host .noBuild)
  | (.ok directory, host) =>
    let (result, s) := part directory (s.record host (.openedBuild directory))
    (result, s.record (h.closeBuild directory s.host) (.closedBuild directory))

end Audit
end CourseAudit
