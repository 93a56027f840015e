import CourseAudit.Audit.Host
import CourseAudit.Shell.Run

/-!
A machine with files and the usual small programs. Tools run on it to their end or to their time
limit, whichever is first.

A tool is started in a process group of its own, and the group is killed when the tool ends. What
has left the group by then may go on writing for the grace period.
-/
namespace CourseAudit

open Shell (Emission Process World)

structure Machine where
  files : FileTree
  searchPath : Option String
  -- Where directories for builds are made.
  scratch : Path
  -- How many of them there were.
  builds : Nat

namespace Machine

-- Puts the programs of a machine where they are looked for.
def install (t : FileTree) : FileTree :=
  let plant (t : FileTree) (name : String) : FileTree :=
    t.plant ("/usr/bin/" ++ name) (Shell.Program.node name)
  (Shell.Program.names.foldl plant t).plant "/bin" (.link "usr/bin")

def ofFiles (files : FileTree) (searchPath : Option String) (scratch : Path) : Machine :=
  ⟨install files, searchPath, scratch, 0⟩

-- The file that a program name stands for: a path names it outright, any other name is looked for
-- along the search path. Whether the file can be started does not matter here.
def findExecutable (m : Machine) (program : String) : Option Path :=
  if 1 < (Path.mk program).components.length then
    if m.files.isFile ⟨program⟩ then some ⟨program⟩ else none
  else do
    let searchPath ← m.searchPath
    let paths := (Shell.Program.directories searchPath).map fun d => (⟨d⟩ : Path).join program
    paths.find? m.files.isFile

/-! ### A run -/

-- Of two settings of one name the last one counts.
def environment (m : Machine) (i : Invocation) : List (String × String) :=
  (m.searchPath.toList.map ("PATH", ·) ++ i.env).foldl
    (fun env (name, value) => env.filter (·.1 ≠ name) ++ [(name, value)]) []

-- What is started, and where.
def launch (m : Machine) (i : Invocation) : Except OsError (Shell.Program.Launch × FileTree) := do
  let texts := i.program :: i.args ++ i.env.flatMap fun (name, value) => [name, value]
  if texts.any (·.toList.contains '\x00') then .error .nulInPath
  else
    let t ← match i.workingDir with
      | some directory => m.files.enter directory.text
      | none => .ok m.files
    let searchPath := ((m.environment i).find? (·.1 = "PATH")).map (·.2)
    let launch ← Shell.Program.find t (searchPath.getD "/bin:/usr/bin") i.program i.args
    .ok (launch, t)

def firstNumber : Nat := 2000

def firstProcess (t : FileTree) (env : List (String × String)) : Process where
  clock := 0
  number := firstNumber
  first := firstNumber
  shell := firstNumber
  escaped := none
  cwd := t.cwd
  name := ""
  line := 1
  builtin := none
  args := []
  bindings := env.map fun (name, value) => ⟨name, some value, true, false⟩
  functions := []
  endpoints := [(0, .nothing), (1, .stream .output), (2, .stream .errors)]
  status := 0
  substituted := none
  lastJob := none
  noticed := 0
  traps := []
  pending := []
  locals := none
  loops := 0
  options := []
  guards := 0
  lost := false

-- How long after the end of a tool each of its outputs may stay open, in microseconds.
def grace : Nat := 500000

def firstWorld (t : FileTree) (limit : Nat) : World where
  root := t.root
  emissions := []
  buffers := []
  supplies := []
  jobs := []
  signals := []
  next := firstNumber + 1
  horizon := limit
  grace := 2 * grace

-- When the standard output is read to its end. A process that has left the group holds it open.
def outputEnd (w : World) (stop : Nat) : Nat :=
  let holders := w.jobs.filter fun j =>
    j.escaped.any (· ≤ stop) && j.holds.contains (.stream .output)
  let finishes := holders.map fun j => j.finish.getD (stop + grace)
  min (finishes.foldl max stop) (stop + grace)

-- What is still read of what was written.
def isRead (w : World) (stop : Nat) (e : Emission) : Bool :=
  e.time ≤ stop ||
    e.escaped.any (· ≤ stop) &&
      match e.stream with
      | .output => e.time ≤ stop + grace
      | .errors => e.time ≤ outputEnd w stop + grace

-- Both outputs in the order of arrival.
def outputText (w : World) (stop : Nat) : String :=
  let read := w.emissions.reverse.filter (isRead w stop)
  let sorted := read.mergeSort fun a b => a.time ≤ b.time
  Text.Utf8.decodeStringLossy (sorted.flatMap (·.bytes))

def replyOf (s : Shell.State) (limit : Nat) (ending : Option Shell.Ending) : Reply :=
  match ending with
  | some (.exited status) => ⟨some status, outputText s.world s.process.clock, false⟩
  | some (.signaled _) => ⟨none, outputText s.world s.process.clock, false⟩
  | none => ⟨none, outputText s.world limit, true⟩

def invoke (i : Invocation) (m : Machine) : Answer × Machine :=
  match m.launch i with
  | .error .notFound => (.failed (.notFound i.program), m)
  | .error e => (.failed (.spawn i.program [e.message]), m)
  | .ok (launch, t) =>
    let limit := 1000 * i.timeoutMillis
    let part : Shell.Act Unit := do
      Shell.spend Shell.programCost
      Shell.runProgram (Shell.deeper Shell.depthLimit) Shell.programDepth launch
    let (flow, s) := part ⟨firstProcess t (m.environment i), firstWorld t limit⟩
    let ending := (Shell.endingOf s.process flow).toOption
    (.ran (replyOf s limit ending), { m with files := { m.files with root := s.world.root } })

/-! ### Directories for builds -/

def sixDigits (n : Nat) : String :=
  let digits := toString n
  String.ofList (List.replicate (6 - digits.length) '0') ++ digits

def openBuild (m : Machine) : Except (List String) Path × Machine :=
  let directory := m.scratch.join ("pattern-validator-" ++ sixDigits m.builds)
  match m.files.makeDirectory directory.text with
  | .ok files => (.ok directory, { m with files, builds := m.builds + 1 })
  | .error e => (.error [e.message ++ " at path \"" ++ directory.text ++ "\""], m)

def closeBuild (directory : Path) (m : Machine) : Machine :=
  match m.files.remove directory.text with
  | .ok files => { m with files }
  | .error _ => m

def host : Host Machine where
  isAvailable program m := ((m.findExecutable program).isSome, m)
  invoke := invoke
  openBuild := openBuild
  closeBuild := closeBuild

end Machine
end CourseAudit
