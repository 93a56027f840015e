import CourseAudit.FileTree.Edit
import CourseAudit.Shell.Parser

/-!
Processes, as far as scripts can tell. Time is counted in microseconds and passes where a process
spends it. A process in the background is carried out as soon as it is started, with a clock of its
own; what it writes is kept with the time of writing, so that it falls into place later.
-/
namespace CourseAudit.Shell

open Text.Utf8 (Bytes)
open FileTree (Place)

-- The two outputs that are read from outside.
inductive Stream where
  | output
  | errors
  deriving DecidableEq, Repr

-- Where a file descriptor leads.
inductive Endpoint where
  | stream (s : Stream)
  | nothing
  | file (place : Place)
  -- What is written is kept under a number.
  | buffer (number : Nat)
  -- A text that waits under a number is read.
  | supply (number : Nat)
  deriving DecidableEq, Repr

structure Emission where
  time : Nat
  stream : Stream
  bytes : Bytes
  process : Nat
  -- Since when the process is no longer in the group of the first one.
  escaped : Option Nat

-- How a process came to its end.
inductive Ending where
  | exited (status : Nat)
  | signaled (number : Nat)
  deriving DecidableEq, Repr

def Ending.status : Ending → Nat
  | .exited status => status
  | .signaled number => 128 + number

-- A process in the background. Without a finish it goes on for longer than anyone looks. It and the
-- processes it has started have numbers below `beyond`.
structure Job where
  process : Nat
  beyond : Nat
  parent : Nat
  escaped : Option Nat
  finish : Option Nat
  ending : Ending
  -- What it can write to.
  holds : List Endpoint

-- What was written at one time.
structure Chunk where
  time : Nat
  bytes : Bytes
  deriving DecidableEq, Repr

structure Supply where
  number : Nat
  content : List Chunk
  -- When the end of the text can be read.
  ready : Nat

structure Signal where
  process : Nat
  time : Nat
  number : Nat

-- What all processes share.
structure World where
  root : Node
  emissions : List Emission
  buffers : List (Nat × List Chunk)
  supplies : List Supply
  jobs : List Job
  signals : List Signal
  next : Nat
  -- Beyond this time nobody looks, except at processes that have left the group.
  horizon : Nat
  -- How much longer those are looked at.
  grace : Nat

-- A variable may be marked before it has a value.
structure Variable where
  name : String
  value : Option String
  exported : Bool
  -- Refuses another value.
  fixed : Bool

structure Process where
  clock : Nat
  number : Nat
  -- The process that was started first.
  first : Nat
  -- What a script takes for the number of its process.
  shell : Nat
  escaped : Option Nat
  cwd : Place
  name : String
  -- The line of the script that is carried out.
  line : Nat
  -- The command of the shell itself that is carried out, if there is one.
  builtin : Option String
  args : List String
  bindings : List Variable
  functions : List (String × Command)
  endpoints : List (Nat × Endpoint)
  status : Nat
  -- The status of the last command that was put in place of its output.
  substituted : Option Nat
  lastJob : Option Nat
  -- Until when the ends of processes in the background have been noticed.
  noticed : Nat
  traps : List (String × String)
  -- Commands set on signals that have arrived.
  pending : List String
  -- The variables that belong to the function being carried out, as they were before; nothing
  -- outside of functions.
  locals : Option (List (String × Option Variable))
  -- How many loops the present command stands in.
  loops : Nat
  -- The options that are set, by their letters.
  options : List Char
  -- How many commands around the present one look at its status.
  guards : Nat
  -- Whether something was written to nowhere.
  lost : Bool

def Process.has (p : Process) (option : Char) : Bool :=
  p.options.contains option

def World.limitOf (w : World) (p : Process) : Nat :=
  if p.escaped.isSome then w.horizon + w.grace else w.horizon

structure State where
  process : Process
  world : World

-- Why a command does not go on to the next.
inductive Flow where
  | exit (status : Nat)
  -- The shell gives up after a fault.
  | gaveUp
  | returned (status : Nat)
  | brokeOff (levels : Nat)
  | continued (levels : Nat)
  | killed (signal : Nat) (process : Nat)
  | stalled
  deriving DecidableEq, Repr

def Act (α : Type) := State → Except Flow α × State

namespace Act

variable {α β : Type}

protected def pure (a : α) : Act α := fun s => (.ok a, s)

protected def bind (x : Act α) (f : α → Act β) : Act β := fun s =>
  match x s with
  | (.ok a, s) => f a s
  | (.error flow, s) => (.error flow, s)

instance : Monad Act where
  pure := Act.pure
  bind := Act.bind

def leave (flow : Flow) : Act α := fun s => (.error flow, s)

def process : Act Process := fun s => (.ok s.process, s)

def world : Act World := fun s => (.ok s.world, s)

def modifyProcess (f : Process → Process) : Act Unit := fun s =>
  (.ok (), { s with process := f s.process })

def modifyWorld (f : World → World) : Act Unit := fun s =>
  (.ok (), { s with world := f s.world })

-- Catches the flow of a part, which cannot then leave it.
def result (x : Act α) : Act (Except Flow α) := fun s =>
  let (r, s) := x s
  (.ok r, s)

def ofResult : Except Flow α → Act α
  | .ok a => pure a
  | .error flow => leave flow

def forEach (f : α → Act Unit) : List α → Act Unit
  | [] => pure ()
  | a :: rest => do
    f a
    forEach f rest

def collect (f : α → Act β) : List α → Act (List β)
  | [] => pure []
  | a :: rest => do
    let b ← f a
    let behind ← collect f rest
    pure (b :: behind)

-- Repeats a part that hands over to its next turn (`ok`) or ends with a result (`error`), at most
-- `count` times.
def iterate (part : α → Act (Except β α)) : Nat → α → Act β
  | 0, _ => leave .stalled
  | count + 1, a => fun s =>
    match part a s with
    | (.ok (.ok a), s) => iterate part count a s
    | (.ok (.error b), s) => (.ok b, s)
    | (.error flow, s) => (.error flow, s)

end Act

open Act

-- A command by what it does with its arguments. It ends with a status.
abbrev Routine := List String → Act Nat

-- A number nothing else has.
def freshNumber : Act Nat := fun s =>
  (.ok s.world.next, { s with world := { s.world with next := s.world.next + 1 } })

/-! ### Time and signals -/

def trapOf (p : Process) (name : String) : Option String :=
  (p.traps.find? (·.1 = name)).map (·.2)

-- The names of signals and what a shell says of a process that one has killed.
def signalNames : List (Nat × String × String) := [
  (1, "HUP", "Hangup"),
  (2, "INT", "Interrupt"),
  (3, "QUIT", "Quit"),
  (4, "ILL", "Illegal instruction"),
  (5, "TRAP", "Trace/breakpoint trap"),
  (6, "ABRT", "Aborted"),
  (7, "BUS", "Bus error"),
  (8, "FPE", "Floating point exception"),
  (9, "KILL", "Killed"),
  (10, "USR1", "User defined signal 1"),
  (11, "SEGV", "Segmentation fault"),
  (12, "USR2", "User defined signal 2"),
  (13, "PIPE", "Broken pipe"),
  (14, "ALRM", "Alarm clock"),
  (15, "TERM", "Terminated"),
  (16, "STKFLT", "Stack fault"),
  (17, "CHLD", "Child exited"),
  (18, "CONT", "Continued"),
  (19, "STOP", "Stopped (signal)"),
  (20, "TSTP", "Stopped"),
  (21, "TTIN", "Stopped (tty input)"),
  (22, "TTOU", "Stopped (tty output)"),
  (23, "URG", "Urgent I/O condition"),
  (24, "XCPU", "CPU time limit exceeded"),
  (25, "XFSZ", "File size limit exceeded"),
  (26, "VTALRM", "Virtual timer expired"),
  (27, "PROF", "Profiling timer expired"),
  (28, "WINCH", "Window changed"),
  (29, "IO", "I/O possible"),
  (30, "PWR", "Power failure"),
  (31, "SYS", "Bad system call")]

def signalName (number : Nat) : String :=
  ((signalNames.find? (·.1 = number)).map (·.2.1)).getD (toString number)

def signalText (number : Nat) : String :=
  ((signalNames.find? (·.1 = number)).map (·.2.2)).getD ("Unknown signal " ++ toString number)

inductive Effect where
  | nothing
  | halt
  | death
  deriving DecidableEq, Repr

-- What a signal does to a process that does not care for it.
def effectOf (number : Nat) : Effect :=
  if [17, 18, 23, 28].contains number then .nothing
  else if [19, 20, 21, 22].contains number then .halt
  else .death

def isTrappable (number : Nat) : Bool :=
  number ≠ 9 && number ≠ 19

-- A process that a signal has stopped never goes on, because nobody wakes it.
def suffer (number : Nat) : Act Unit := do
  let p ← process
  match if isTrappable number then trapOf p (signalName number) else none with
  | some action =>
    if action.isEmpty then pure ()
    else modifyProcess fun p => { p with pending := p.pending ++ [action] }
  | none =>
    match effectOf number with
    | .nothing => pure ()
    | .halt => leave .stalled
    | .death => leave (.killed number p.number)

-- Lets time pass up to a moment. A signal that arrives before ends it.
def waitUntil (time : Nat) : Act Unit := do
  let p ← process
  let w ← world
  let time := max time p.clock
  match w.signals.filter fun s => s.process = p.number && s.time ≤ time with
  | s :: _ => do
    modifyWorld fun w =>
      { w with signals := w.signals.filter fun t => t.process ≠ p.number || s.time < t.time }
    modifyProcess fun p => { p with clock := s.time }
    suffer s.number
    modifyProcess fun p => { p with clock := time }
  | [] => modifyProcess fun p => { p with clock := time }
  if w.limitOf p < time then leave .stalled else pure ()

def spend (micros : Nat) : Act Unit := do
  let p ← process
  waitUntil (p.clock + micros)

-- What it takes to carry out a command of the shell itself, to start a copy of the shell, and to
-- start a program.
def shellCost : Nat := 3

def copyCost : Nat := 300

def programCost : Nat := 1000

/-! ### Files -/

def files : Act FileTree := fun s =>
  (.ok ⟨s.world.root, s.process.cwd⟩, s)

def setFiles (t : FileTree) : Act Unit := fun s =>
  (.ok (),
    { process := { s.process with cwd := t.cwd }, world := { s.world with root := t.root } })

-- The file that swallows all that is written to it.
def nothingPath : String := "/dev/null"

/-! ### Reading and writing -/

def endpointOf (p : Process) (descriptor : Nat) : Option Endpoint :=
  (p.endpoints.find? (·.1 = descriptor)).map (·.2)

def setEndpoint (descriptor : Nat) (endpoint : Option Endpoint) : Act Unit :=
  modifyProcess fun p =>
    let others := p.endpoints.filter (·.1 ≠ descriptor)
    match endpoint with
    | some endpoint => { p with endpoints := (descriptor, endpoint) :: others }
    | none => { p with endpoints := others }

def appendFile (place : Place) (bytes : Bytes) : Act Unit :=
  modifyWorld fun w =>
    match w.root.get? place with
    | some (.file content executable) =>
      { w with root := w.root.put place (some (.file (content ++ bytes) executable)) }
    | _ => w

def appendBuffer (number : Nat) (chunk : Chunk) : List (Nat × List Chunk) → List (Nat × List Chunk)
  | [] => [(number, [chunk])]
  | (n, chunks) :: rest =>
    if n = number then (n, chunk :: chunks) :: rest
    else (n, chunks) :: appendBuffer number chunk rest

def writeEndpoint (endpoint : Option Endpoint) (bytes : Bytes) : Act Unit := do
  let p ← process
  match endpoint with
  | some (.stream stream) =>
    if bytes.isEmpty then pure ()
    else
      modifyWorld fun w =>
        { w with emissions := ⟨p.clock, stream, bytes, p.number, p.escaped⟩ :: w.emissions }
  | some (.file place) => appendFile place bytes
  | some (.buffer number) =>
    modifyWorld fun w => { w with buffers := appendBuffer number ⟨p.clock, bytes⟩ w.buffers }
  | some .nothing => pure ()
  | some (.supply _) | none =>
    if bytes.isEmpty then pure () else modifyProcess fun p => { p with lost := true }

def writeBytes (bytes : Bytes) : Act Unit := do
  let p ← process
  writeEndpoint (endpointOf p 1) bytes

def write (text : String) : Act Unit :=
  writeBytes (Text.Utf8.encodeString text)

def complain (text : String) : Act Unit := do
  let p ← process
  writeEndpoint (endpointOf p 2) (Text.Utf8.encodeString (text ++ "\n"))

-- All that was written under a number, in the order of time.
def bufferContent (w : World) (number : Nat) : List Chunk :=
  match w.buffers.find? (·.1 = number) with
  | some (_, chunks) => chunks.reverse.mergeSort fun a b => a.time ≤ b.time
  | none => []

def dropBuffer (number : Nat) : Act Unit :=
  modifyWorld fun w => { w with buffers := w.buffers.filter (·.1 ≠ number) }

-- When nothing can be written any more to an endpoint: none of the processes in the background that
-- hold it goes on.
def closedAt (endpoint : Endpoint) (time : Nat) : Act Nat := do
  let p ← process
  let w ← world
  let holders := w.jobs.filter fun j => j.holds.contains endpoint
  pure ((holders.map fun j => j.finish.getD (w.limitOf p + 1)).foldl max time)

def addSupply (content : List Chunk) (ready : Nat) : Act Nat := do
  let number ← freshNumber
  modifyWorld fun w => { w with supplies := ⟨number, content, ready⟩ :: w.supplies }
  pure number

def addText (bytes : Bytes) : Act Nat := do
  let p ← process
  addSupply [⟨p.clock, bytes⟩] p.clock

def setSupply (number : Nat) (content : List Chunk) : Act Unit :=
  modifyWorld fun w =>
    { w with supplies := w.supplies.map fun s =>
        if s.number = number then { s with content } else s }

def inputSupply : Act (Option Supply) := do
  let p ← process
  let w ← world
  match endpointOf p 0 with
  | some (.supply number) => pure (w.supplies.find? (·.number = number))
  | _ => pure none

-- Takes the rest of the standard input as a whole.
def takeInput : Act Bytes := do
  match ← inputSupply with
  | some s => do
    setSupply s.number []
    waitUntil s.ready
    pure (s.content.flatMap (·.bytes))
  | none => pure []

-- A line at the front of a text, when the end of it was written, and what is behind it.
def lineOf? : List Chunk → Option (Bytes × Nat × List Chunk)
  | [] => none
  | c :: rest =>
    match c.bytes.dropWhile (· ≠ 10) with
    | _ :: behind =>
      some (c.bytes.takeWhile (· ≠ 10), c.time,
        if behind.isEmpty then rest else ⟨c.time, behind⟩ :: rest)
    | [] => (lineOf? rest).map fun (line, time, rest) => (c.bytes ++ line, time, rest)

-- Takes a line of the standard input; `false` tells that it was not ended by a newline.
def takeLine : Act (Bytes × Bool) := do
  match ← inputSupply with
  | some s =>
    match lineOf? s.content with
    | some (line, time, rest) => do
      setSupply s.number rest
      waitUntil time
      pure (line, true)
    | none => do
      setSupply s.number []
      waitUntil s.ready
      pure (s.content.flatMap (·.bytes), false)
  | none => pure ([], false)

/-! ### Faults -/

-- The end of a script after a fault.
def faultStatus : Nat := 2

-- A text of the shell about itself: its name, the line, the command, and what is wrong.
def complainHere (text : String) : Act Unit := do
  let p ← process
  let command := match p.builtin with
    | some command => command ++ ": "
    | none => ""
  complain (p.name ++ ": " ++ toString p.line ++ ": " ++ command ++ text)

-- The shell gives up.
def giveUp {α : Type} (text : String) : Act α := do
  complainHere text
  leave .gaveUp

/-! ### Variables -/

def bindingOf? (p : Process) (name : String) : Option Variable :=
  p.bindings.find? (·.name = name)

def lookup (p : Process) (name : String) : Option String :=
  (bindingOf? p name).bind (·.value)

def setVariable (v : Variable) : Act Unit :=
  modifyProcess fun p => { p with bindings := v :: p.bindings.filter (·.name ≠ v.name) }

-- Changes a variable, which need not have been there.
def changeVariable (name : String) (change : Variable → Variable) : Act Unit := do
  let p ← process
  setVariable (change ((bindingOf? p name).getD ⟨name, none, false, false⟩))

def refuseIfFixed (name : String) : Act Unit := do
  let p ← process
  if (bindingOf? p name).any (·.fixed) then giveUp (name ++ ": is read only") else pure ()

def assign (name value : String) : Act Unit := do
  refuseIfFixed name
  let p ← process
  changeVariable name fun v => { v with value := some value, exported := v.exported || p.has 'a' }

def exportVariable (name : String) : Act Unit :=
  changeVariable name fun v => { v with exported := true }

def unset (name : String) : Act Unit := do
  refuseIfFixed name
  modifyProcess fun p => { p with bindings := p.bindings.filter (·.name ≠ name) }

def setStatus (status : Nat) : Act Unit :=
  modifyProcess fun p => { p with status }

/-! ### Children -/

def endingOf (p : Process) : Except Flow Unit → Except Flow Ending
  | .ok () => .ok (.exited p.status)
  | .error (.exit status) | .error (.returned status) => .ok (.exited status)
  | .error .gaveUp => .ok (.exited faultStatus)
  | .error (.brokeOff _) | .error (.continued _) => .ok (.exited p.status)
  | .error (.killed number victim) =>
    if victim = p.number then .ok (.signaled number) else .error (.killed number victim)
  | .error .stalled => .error .stalled

-- A copy of a process. Commands that are set on signals are not inherited.
def childOf (number : Nat) (p : Process) : Process :=
  { p with number, lastJob := none, traps := p.traps.filter (·.2.isEmpty), pending := [] }

-- Waits without end. Only a signal can change that.
def stall {α : Type} : Act α := do
  let p ← process
  let w ← world
  waitUntil (w.limitOf p + 1)
  leave .stalled

-- What the shell says of a process that a signal has ended.
def report : Ending → Act Unit
  | .exited _ => pure ()
  | .signaled number =>
    if number = 2 || number = 13 then pure () else complain (signalText number)

-- Carries out a part in a child and waits for its end.
def inChild (part : Act Unit) : Act Ending := do
  let parent ← process
  let number ← freshNumber
  modifyProcess (childOf number)
  let r ← result part
  let child ← process
  modifyProcess fun _ => parent
  match endingOf child r with
  | .ok ending => do
    waitUntil child.clock
    modifyProcess fun p => { p with noticed := p.clock }
    pure ending
  | .error _ => stall

-- Carries out a part in a child that goes on beside its parent.
def inBackground (part : Act Unit) : Act Nat := do
  let parent ← process
  let number ← freshNumber
  modifyProcess (childOf number)
  let r ← result part
  let child ← process
  modifyProcess fun _ => parent
  let w ← world
  let (finish, ending) := match endingOf child r with
    | .ok ending => (some child.clock, ending)
    | .error _ => (none, .exited 0)
  let job : Job :=
    ⟨number, w.next, parent.number, child.escaped, finish, ending, child.endpoints.map (·.2)⟩
  modifyWorld fun w => { w with jobs := job :: w.jobs }
  modifyProcess fun p => { p with lastJob := some number }
  pure number

-- Ends a process in the background; what it would have written later is not written.
def endJob (job : Job) (time signal : Nat) : Act Unit :=
  modifyWorld fun w =>
    { w with
      jobs := w.jobs.map fun j =>
        if j.process = job.process then { j with finish := some time, ending := .signaled signal }
        else j
      emissions := w.emissions.filter fun e =>
        e.process < job.process || job.beyond ≤ e.process || e.time ≤ time }

end CourseAudit.Shell
