import CourseAudit.Shell.Builtin
import CourseAudit.Shell.Program
import CourseAudit.Shell.Redirect

/-!
Carrying out scripts and programs. `perform` goes along the structure of a command. What is nested
in a word, the body of a function, the text given to `eval` and the script of a program begin anew,
one level deeper; `deeper` says how deep that may go.
-/
namespace CourseAudit.Shell

open Act

/-! ### Scripts -/

-- Carries out the commands of a script. `last` tells that the process ends with it.
def runCommands (d : Deeper) (last : Bool) : List Command → Act Unit
  | [] => pure ()
  | [c] => d.run last c
  | c :: rest => do
    d.run false c
    runCommands d last rest

-- A script up to its fault, if it has one; the shell gives up there.
def runText (d : Deeper) (last : Bool) (text : String) : Act Unit := do
  let script := Parser.script text
  runCommands d (last && script.fault.isNone) script.commands
  match script.fault with
  | none => pure ()
  | some (line, fault) => do
    modifyProcess fun p => { p with line }
    giveUp ("Syntax error: " ++ fault.message)

-- Carries out the commands that were set on signals which have arrived. They leave the status as it
-- is.
def runPending (d : Deeper) : Act Unit := do
  let p ← process
  match p.pending with
  | [] => pure ()
  | actions => do
    modifyProcess fun p => { p with pending := [] }
    forEach (fun action => do
      let before ← process
      runText d false action
      setStatus before.status) actions

-- Ends the shell with a part of it. A command that is set on the end is carried out.
def toEnd (d : Deeper) (part : Act Unit) : Act Unit := do
  let r ← result part
  let p ← process
  let finish (status : Nat) : Act Unit :=
    match trapOf p "EXIT" with
    | none => leave (.exit status)
    | some action => do
      modifyProcess fun p => { p with traps := p.traps.filter (·.1 ≠ "EXIT"), status }
      runText d false action
      leave (.exit status)
  match r with
  | .error (.killed number victim) => leave (.killed number victim)
  | .error .stalled => leave .stalled
  | .error (.exit status) | .error (.returned status) => finish status
  | .error .gaveUp => finish faultStatus
  | .ok () | .error (.brokeOff _) | .error (.continued _) => finish p.status

/-! ### Programs -/

-- A new program keeps the process, but of the shell that it takes the place of only what is
-- exported.
def enterProgram (l : Program.Launch) : Act Unit :=
  modifyProcess fun p => { p with
    name := l.name, args := l.args, line := 1, builtin := none
    bindings := (p.bindings.filter fun v => v.exported && v.value.isSome).map fun v =>
      { v with fixed := false }
    functions := [], locals := none, pending := [], lastJob := none, substituted := none
    traps := p.traps.filter fun t => t.2.isEmpty && t.1 ≠ "EXIT"
    status := 0, loops := 0, guards := 0, options := [] }

-- What the arguments of a shell say: options, and what is behind them.
structure Start where
  isText : Bool
  fromInput : Bool
  settings : List (Act Unit)
  operands : List String

namespace Start

def addLetter (on : Bool) (s : Start) (letter : Char) : Start :=
  if letter = 'c' then { s with isText := true }
  else
    { s with fromInput := s.fromInput || letter = 's'
             settings := Builtin.setOption on letter :: s.settings }

def ofArgs : List String → Start
  | [] => ⟨false, false, [], []⟩
  | "--" :: rest | "-" :: rest => ⟨false, false, [], rest⟩
  | "-o" :: name :: rest =>
    let s := Start.ofArgs rest
    { s with settings := Builtin.setLongOption true name :: s.settings }
  | arg :: rest =>
    match arg.toList with
    | sign :: c :: letters =>
      if sign = '-' || sign = '+' then
        (c :: letters).reverse.foldl (addLetter (sign = '-')) (Start.ofArgs rest)
      else ⟨false, false, [], arg :: rest⟩
    | _ => ⟨false, false, [], arg :: rest⟩

end Start

def setArguments (name : String) (args : List String) : Act Unit :=
  modifyProcess fun p => { p with name, args }

-- What a shell knows from the start.
def setFirstVariables : Act Unit := do
  let p ← process
  assign "PPID" (toString (if p.number = p.first then p.first - 1 else p.shell))
  assign "IFS" " \t\n"
  assign "OPTIND" "1"
  assign "PS4" "+ "
  assign "PWD" (FileTree.pathOf p.cwd)

def runInput (d : Deeper) (args : List String) : Act Unit := do
  modifyProcess fun p => { p with args }
  let text ← takeInput
  toEnd d (runText d false (Text.Utf8.decodeStringLossy text))

def runShell (d : Deeper) (args : List String) : Act Unit := do
  setFirstVariables
  modifyProcess fun p => { p with shell := p.number, line := 0 }
  let start := Start.ofArgs args
  forEach id start.settings
  let t ← files
  if start.isText then
    match start.operands with
    | [] => giveUp "-c requires an argument"
    | text :: operands => do
      match operands with
      | name :: args => setArguments name args
      | [] => modifyProcess fun p => { p with args := [] }
      toEnd d (runText d true text)
  else if start.fromInput then runInput d start.operands
  else
    match start.operands with
    | [] => runInput d []
    | path :: args =>
      match t.read ⟨path⟩ with
      | .ok content => do
        setArguments path args
        toEnd d (runText d false (Text.Utf8.decodeStringLossy content))
      -- A directory can be opened, but nothing is read from it.
      | .error .isDirectory => leave (.exit 0)
      | .error e => giveUp ("cannot open " ++ path ++ ": " ++ openFault "No such file" e)

def searchPath (p : Process) : String :=
  (lookup p "PATH").getD "/usr/bin:/bin"

-- A file that no system understands is taken for a script.
def findLaunch (t : FileTree) (searchPath name : String) (args : List String) :
    Except OsError Program.Launch :=
  match Program.find t searchPath name args with
  | .error .noExecFormat =>
    let path := (Program.locate? t searchPath name).getD name
    .ok ⟨"sh", "sh", path :: args⟩
  | r => r

-- Whether `setsid` starts a child in any case, and whether it waits for it.
structure SessionOptions where
  forks : Bool
  waits : Bool

def takeSessionOptions (o : SessionOptions) :
    List String → Except Char (SessionOptions × List String)
  | [] => .ok (o, [])
  | "--" :: rest => .ok (o, rest)
  | arg :: rest =>
    match arg.toList with
    | '-' :: c :: letters =>
      match (c :: letters).find? (!"cfw".toList.contains ·) with
      | some bad => .error bad
      | none =>
        takeSessionOptions
          ⟨o.forks || (c :: letters).contains 'f', o.waits || (c :: letters).contains 'w'⟩ rest
    | _ => .ok (o, arg :: rest)

-- The options of `env` and its settings of variables. What is left is a program and its arguments.
def prepareEnvironment : List String → Act (List String)
  | "-i" :: rest | "-" :: rest => do
    modifyProcess fun p => { p with bindings := [] }
    prepareEnvironment rest
  | "-u" :: name :: rest => do
    Shell.unset name
    prepareEnvironment rest
  | "--" :: rest => prepareEnvironment rest
  | arg :: rest =>
    if arg.toList.contains '=' then do
      let (name, value) := Builtin.nameAndValue arg
      assign name (value.getD "")
      exportVariable name
      prepareEnvironment rest
    else
      match arg.toList with
      | '-' :: c :: _ => do
        Utility.complainOfUse "env" ("invalid option -- '" ++ String.singleton c ++ "'")
        leave (.exit 125)
      | _ => pure (arg :: rest)
  | [] => pure []

-- Carries out a program to its end. The process is one of its own already.
def runProgram (d : Deeper) : Nat → Program.Launch → Act Unit
  | 0, _ => leave (.exit 126)
  | depth + 1, l => do
    enterProgram l
    let start (name : String) (args : List String) : Act Unit := do
      let p ← process
      let t ← files
      match findLaunch t (searchPath p) name args with
      | .ok next => runProgram d depth next
      | .error e => do
        complain (l.program ++ ": " ++ (if l.program = "setsid" then "failed to execute " ++ name
          else "'" ++ name ++ "'") ++ ": " ++ e.brief)
        leave (.exit (if e = .notFound then 127 else 126))
    match Utility.find? l.program with
    | some utility => do
      let status ← utility l.args
      leave (.exit status)
    | none =>
      match l.program, l.args with
      | "env", args => do
        let rest ← prepareEnvironment args
        match rest with
        | name :: args => start name args
        | [] => do
          let p ← process
          forEach (fun v => write (v.name ++ "=" ++ v.value.getD "" ++ "\n")) p.bindings.reverse
          leave (.exit 0)
      | "nohup", name :: args => start name args
      | "setsid", args => do
        match takeSessionOptions ⟨false, false⟩ args with
        | .error c => do
          Utility.complainOfUse "setsid" ("invalid option -- '" ++ String.singleton c ++ "'")
          leave (.exit 1)
        | .ok (_, []) => do
          Utility.complainOfUse "setsid" "no command specified"
          leave (.exit 1)
        | .ok (o, name :: args) => do
          let p ← process
          let away : Act Unit := do
            modifyProcess fun p => { p with escaped := some (p.escaped.getD p.clock) }
            start name args
          -- The leader of the group cannot leave it, so a child does.
          if p.number = p.first || o.forks then
            if o.waits then do
              let ending ← inChild away
              leave (.exit ending.status)
            else do
              let _ ← inBackground away
              leave (.exit 0)
          else away
      | "nohup", [] => do
        Utility.complainOfUse "nohup" "missing operand"
        leave (.exit 125)
      | _, args => runShell d args

-- How many programs may take each other's place.
def programDepth : Nat := 50

/-! ### Simple commands -/

-- Carries out a part that may set variables, and sets them back.
def restoring (names : List String) (part : Act Unit) : Act Unit := do
  let before ← process
  let r ← result part
  modifyProcess fun p => { p with
    bindings := before.bindings.filter (names.contains ·.name)
      ++ p.bindings.filter (!names.contains ·.name) }
  ofResult r

-- Each value may use the variables that are set before it.
def assignEach (d : Deeper) (exported : Bool) (assignments : List (String × Word)) :
    Act (List String) :=
  collect (fun (name, word) => do
    let value ← wordText d word
    assign name value
    if exported then exportVariable name else pure ()
    pure (name ++ "=" ++ value)) assignments

-- Shows what is carried out, if that is wanted, where complaints of the shell go.
def trace (shell : Process) (texts : List String) : Act Unit := do
  if shell.has 'x' then
    let front := (lookup shell "PS4").getD ""
    writeEndpoint (endpointOf shell 2)
      (Text.Utf8.encodeString (front ++ String.intercalate " " texts ++ "\n"))
  else pure ()

-- Carries out an external program, in a child or, at the end of the shell, in its place.
def runExternal (d : Deeper) (last : Bool) (name : String) (args : List String) : Act Unit := do
  let p ← process
  let t ← files
  match findLaunch t (searchPath p) name args with
  | .error e => do
    let isMissing := e = .notFound || e = .notDirectory
    complainHere (name ++ ": " ++ if isMissing then "not found" else e.brief)
    setStatus (if isMissing || !Program.isPath name then 127 else 126)
  | .ok launch => do
    let part : Act Unit := do
      spend programCost
      runProgram d programDepth launch
    if last && p.traps.all (·.2.isEmpty) then part
    else do
      let ending ← inChild part
      report ending
      setStatus ending.status

def runFunction (d : Deeper) (body : Command) (args : List String) : Act Unit := do
  let before ← process
  modifyProcess fun p => { p with args, loops := 0, locals := some [] }
  let r ← result (d.run false body)
  modifyProcess fun p =>
    let kept := p.locals.getD []
    let names := kept.map (·.1)
    { p with
      args := before.args, loops := before.loops, locals := before.locals
      bindings := kept.filterMap (·.2) ++ p.bindings.filter (!names.contains ·.name) }
  match r with
  | .error (.returned status) => setStatus status
  | r => ofResult r

-- Carries out a command of the shell itself. Its faults end the shell only if it belongs to the
-- language.
def asBuiltin (name : String) (endsShell : Bool) (part : Act Unit) : Act Unit := do
  let before ← process
  modifyProcess fun p => { p with builtin := some name }
  let r ← result part
  modifyProcess fun p => { p with builtin := before.builtin }
  match r with
  | .error .gaveUp => if endsShell then leave .gaveUp else setStatus faultStatus
  | r => ofResult r

def runRoutine (name : String) (endsShell : Bool) (routine : Routine) (args : List String) :
    Act Unit :=
  asBuiltin name endsShell do
    modifyProcess fun p => { p with lost := false }
    let status ← routine args
    let p ← process
    if p.lost then do
      complainHere (name ++ ": I/O error")
      setStatus (max 1 status)
    else setStatus status

-- What a name is taken for.
inductive Meaning where
  | keyword
  | language
  | builtin
  | function
  | file (path : String)

-- Commands of the shell that carry out others.
def metaNames : List String := ["eval", ".", "exec", "command", "type"]

def meaning? (name : String) : Act (Option Meaning) := do
  let p ← process
  let t ← files
  if Parser.reserved.contains name then pure (some .keyword)
  else if Builtin.isSpecial name then pure (some .language)
  else if p.functions.any (·.1 = name) then pure (some .function)
  else if (Builtin.find? name).isSome || metaNames.contains name then pure (some .builtin)
  else
    match Program.find t (searchPath p) name [] with
    | .ok _ | .error .noExecFormat =>
      pure ((Program.locate? t (searchPath p) name).map .file)
    | .error _ => pure none

-- Tells what a name is taken for; the status tells whether it is anything.
def describe (name : String) : Act Unit := do
  let meaning ← meaning? name
  write (name ++ (match meaning with
    | some .keyword => " is a shell keyword"
    | some .language => " is a special shell builtin"
    | some .builtin => " is a shell builtin"
    | some .function => " is a shell function"
    | some (.file path) => " is " ++ path
    | none => ": not found") ++ "\n")
  setStatus (if meaning.isSome then 0 else 127)

-- Tells how a name would be called.
def locate (name : String) : Act Unit := do
  match ← meaning? name with
  | none => setStatus 127
  | some meaning => do
    write ((match meaning with
      | .file path => path
      | _ => name) ++ "\n")
    setStatus 0

def describeEach : List String → Nat → Act Unit
  | [], status => setStatus status
  | name :: rest, status => do
    describe name
    let p ← process
    describeEach rest (max status p.status)

-- The script that `.` names: without a slash it is looked for along the search path.
def findScript (t : FileTree) (path name : String) : Option String :=
  if Program.isPath name then some name
  else
    ((Program.directories path).map fun dir => ((⟨dir⟩ : Path).join name).text).find? fun p =>
      t.isFile ⟨p⟩

def runScript (d : Deeper) (endsShell : Bool) (name : String) : Act Unit := do
  let p ← process
  let t ← files
  match findScript t (searchPath p) name with
  | none => asBuiltin "." endsShell (giveUp (name ++ ": not found"))
  | some path =>
    match t.read ⟨path⟩ with
    | .error e =>
      asBuiltin "." endsShell
        (giveUp ("cannot open " ++ path ++ ": " ++ openFault "No such file" e))
    | .ok bytes =>
      asBuiltin path endsShell do
        let r ← result (runText d false (Text.Utf8.decodeStringLossy bytes))
        match r with
        | .error (.returned status) => setStatus status
        | r => ofResult r

def replaceShell (d : Deeper) (name : String) (args : List String) : Act Unit := do
  let p ← process
  let t ← files
  match findLaunch t (searchPath p) name args with
  | .ok launch => do
    spend programCost
    runProgram d programDepth launch
  | .error e => do
    let isMissing := e = .notFound || e = .notDirectory
    complainHere (name ++ ": " ++ if isMissing then "not found" else e.brief)
    leave (.exit (if isMissing then 127 else 126))

-- Commands that carry out others, and those that `command` names.
def runMeta (d : Deeper) (last endsShell : Bool) : List String → Act Unit
  | "eval" :: args =>
    asBuiltin "eval" endsShell do
      setStatus 0
      runText d last (String.intercalate " " args)
  | "." :: path :: _ => runScript d endsShell path
  | "exec" :: name :: args => asBuiltin "exec" endsShell (replaceShell d name args)
  | "type" :: names => describeEach names 0
  | "command" :: "-v" :: names =>
    match names with
    | name :: _ => locate name
    | [] => setStatus 0
  | "command" :: "-V" :: names => describeEach names 0
  | "command" :: "-p" :: rest => runMeta d last false ("command" :: rest)
  | "command" :: name :: args =>
    match Builtin.find? name with
    | some routine => runRoutine name false routine args
    | none =>
      if metaNames.contains name then runMeta d last false (name :: args)
      else runExternal d last name args
  | _ => setStatus 0

def runNamed (d : Deeper) (last : Bool) (name : String) (args : List String) : Act Unit := do
  let p ← process
  match p.functions.find? (·.1 = name), Builtin.find? name with
  | some (_, body), _ => runFunction d body args
  | none, some routine => runRoutine name (Builtin.isSpecial name) routine args
  | none, none =>
    if metaNames.contains name then runMeta d last (Builtin.isSpecial name) (name :: args)
    else runExternal d last name args

def runSimple (d : Deeper) (last : Bool) (line : Nat) (assignments : List (String × Word))
    (words : List Word) (rs : List Redirection) : Act Unit := do
  modifyProcess fun p => { p with line, substituted := none }
  spend shellCost
  let fields ← allFields d words
  let shell ← process
  match fields with
  | [] => do
    let done ← Redirection.around d rs do
      let assigned ← assignEach d false assignments
      trace shell assigned
    let p ← process
    if done then setStatus (p.substituted.getD 0) else pure ()
  | name :: args => do
    let isSpecial := Builtin.isSpecial name
    let part : Act Unit := do
      let assigned ← assignEach d (!isSpecial || name = "exec") assignments
      trace shell (assigned ++ fields)
      runNamed d last name args
    let done ←
      if name = "exec" && args.isEmpty then do
        let done ← Redirection.applyAll d rs
        if done then do
          trace shell fields
          setStatus 0
        else pure ()
        pure done
      else
        Redirection.around d rs
          (if isSpecial then part else restoring (assignments.map (·.1)) part)
    if !done && isSpecial then leave .gaveUp else pure ()

/-! ### Compound commands -/

-- Carries out a part whose failure is looked at and does not end the shell.
def guarded (part : Act Unit) : Act Unit := do
  modifyProcess fun p => { p with guards := p.guards + 1 }
  let r ← result part
  modifyProcess fun p => { p with guards := p.guards - 1 }
  ofResult r

def checkFailure : Act Unit := do
  let p ← process
  if p.has 'e' && p.guards = 0 && p.status ≠ 0 then leave (.exit p.status) else pure ()

-- Carries out a turn of a loop and tells whether there may be another.
def turn (part : Act Bool) : Act Bool := do
  match ← result part with
  | .ok more => pure more
  | .error (.brokeOff (levels + 2)) => leave (.brokeOff (levels + 1))
  | .error (.continued (levels + 2)) => leave (.continued (levels + 1))
  | .error (.brokeOff _) => do
    setStatus 0
    pure false
  | .error (.continued _) => do
    setStatus 0
    pure true
  | .error flow => leave flow

def insideLoop (part : Act Unit) : Act Unit := do
  modifyProcess fun p => { p with loops := p.loops + 1 }
  let r ← result part
  modifyProcess fun p => { p with loops := p.loops - 1 }
  ofResult r

-- The status of a loop is that of the last command of its body.
def repeatBody (untilTrue : Bool) (condition body : Act Unit) : Act Unit := insideLoop do
  let w ← world
  let status ← iterate (fun status => do
    let entered ← turn do
      guarded condition
      let p ← process
      pure ((p.status = 0) != untilTrue)
    if entered then do
      let more ← turn do
        body
        pure true
      let p ← process
      pure (if more then .ok p.status else .error p.status)
    else pure (.error status)) (w.horizon + w.grace) 0
  setStatus status

def repeatFor (name : String) (values : List String) (body : Act Unit) : Act Unit := insideLoop do
  let finish ← iterate (fun values =>
    match values with
    | [] => pure (.error ())
    | value :: rest => do
      assign name value
      let more ← turn do
        body
        pure true
      pure (if more then .ok rest else .error ())) (values.length + 1) values
  pure finish

-- The clause whose patterns a text matches.
def findClause (d : Deeper) (text : List Char) :
    List (List Word × Command) → Act (Option Command)
  | [] => pure none
  | (patterns, body) :: rest => do
    let matching ← collect (fun word => do
      let ps ← d.pieces word
      pure (Pattern.isMatch (Pattern.atoms (joinPieces ps)) text)) patterns
    if matching.contains true then pure (some body) else findClause d text rest

-- When the stages of a pipeline were over: the first of them, and all.
structure Ends where
  first : Nat
  all : Nat

-- Nothing that processes with numbers from `low` up to `high` have written later is seen.
def silence (low high time : Nat) : Act Unit :=
  modifyWorld fun w =>
    { w with emissions := w.emissions.filter fun e =>
        e.process < low || high ≤ e.process || e.time ≤ time }

-- The stages of a pipeline begin at one time. Each reads what the one before it has written, and is
-- ended by what it writes when the one behind it is over.
def runStages (d : Deeper) (start : Nat) (input : Option Nat) : List Command → Act Ends
  | [] => pure ⟨start, start⟩
  | c :: rest => do
    modifyProcess fun p => { p with clock := start }
    let buffer ← freshNumber
    let r ← result (inChild do
      match input with
      | some number => setEndpoint 0 (some (.supply number))
      | none => pure ()
      if rest.isEmpty then pure () else setEndpoint 1 (some (.buffer buffer))
      spend copyCost
      toEnd d (d.run true c))
    let p ← process
    let w ← world
    let finish ← match r with
      | .ok ending => do
        report ending
        setStatus ending.status
        if rest.isEmpty then pure p.clock else closedAt (.buffer buffer) p.clock
      | .error .stalled => pure (w.limitOf p + 1)
      | .error flow => leave flow
    let chunks := bufferContent w buffer
    let number ← addSupply chunks finish
    dropBuffer buffer
    let behind ← runStages d start (some number) rest
    match chunks.find? fun chunk => behind.first < chunk.time with
    | some chunk => do
      let stop := min finish chunk.time
      silence buffer number stop
      pure ⟨stop, max stop behind.all⟩
    | none => pure ⟨finish, max finish behind.all⟩

-- The last command of a process is carried out in its place.
def perform (d : Deeper) (last : Bool) : Command → Act Unit
  | .nothing => setStatus 0
  | .simple line assignments words rs => do
    let p ← process
    -- Commands may also only be read.
    if p.has 'n' then pure () else runSimple d last line assignments words rs
    runPending d
    checkFailure
  | .sequence first second => do
    perform d false first
    perform d last second
  | .both first second => do
    guarded (perform d false first)
    let p ← process
    if p.status = 0 then perform d last second else pure ()
  | .either first second => do
    guarded (perform d false first)
    let p ← process
    if p.status = 0 then pure () else perform d last second
  | .background body => do
    let _ ← inBackground do
      setEndpoint 0 (some .nothing)
      spend copyCost
      toEnd d (perform d true body)
    spend shellCost
    setStatus 0
  | .pipeline stages => do
    let p ← process
    let ends ← runStages d p.clock none stages
    modifyProcess fun q => { q with clock := p.clock }
    waitUntil ends.all
    runPending d
    checkFailure
  | .negation body => do
    guarded (perform d false body)
    let p ← process
    setStatus (if p.status = 0 then 1 else 0)
  | .subshell body => do
    let ending ← inChild do
      spend copyCost
      toEnd d (perform d true body)
    report ending
    setStatus ending.status
    runPending d
    checkFailure
  | .conditional condition first second => do
    guarded (perform d false condition)
    let p ← process
    if p.status = 0 then perform d last first else perform d last second
  | .loop untilTrue condition body =>
    repeatBody untilTrue (perform d false condition) (perform d false body)
  | .each name words body => do
    let values ← match words with
      | some words => allFields d words
      | none => do
        let p ← process
        pure p.args
    setStatus 0
    repeatFor name values (perform d false body)
  | .choice word clauses => do
    let text ← wordText d word
    setStatus 0
    match ← findClause d text.toList clauses with
    | some body => d.run last body
    | none => pure ()
  | .function name body => do
    modifyProcess fun p => { p with
      functions := (name, body) :: p.functions.filter (·.1 ≠ name), status := 0 }
  | .redirected line body rs => do
    modifyProcess fun p => { p with line }
    let _ ← Redirection.around d rs (perform d false body)
    checkFailure
termination_by structural c => c

-- How deep functions, nested commands and scripts may go.
def depthLimit : Nat := 1000

-- Too deep a nesting exhausts the memory of the process.
def deeper : Nat → Deeper
  | 0 =>
    { run := fun _ _ => do
        let p ← process
        leave (.killed 11 p.number)
      pieces := fun _ => do
        let p ← process
        leave (.killed 11 p.number) }
  | depth + 1 =>
    { run := perform (deeper depth)
      pieces := expandWord (deeper depth) }

end CourseAudit.Shell
