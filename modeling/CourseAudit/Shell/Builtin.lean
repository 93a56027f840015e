import CourseAudit.Shell.Condition
import CourseAudit.Shell.Expansion
import CourseAudit.Shell.Format

/-!
The commands that the shell carries out itself, except those that start other commands. Each ends
with a status.
-/
namespace CourseAudit.Shell.Builtin

open Act

def digits? (text : String) : Option Nat :=
  if !text.isEmpty && text.toList.all Char.isDigit then text.toNat? else none

-- The number that a command is given, or a usual one.
def numberOr (usual : Nat) (args : List String) : Act Nat :=
  match args with
  | [] => pure usual
  | text :: _ =>
    match digits? text with
    | some n => pure n
    | none => giveUp ("Illegal number: " ++ text)

def exit : Routine := fun args => do
  let p ← process
  let n ← numberOr p.status args
  leave (.exit (n % 256))

def return' : Routine := fun args => do
  let p ← process
  let n ← numberOr p.status args
  leave (.returned (n % 256))

-- Leaves loops, or goes on with the next turn of one. Outside of loops there is nothing to leave.
def leaveLoop (flow : Nat → Flow) : Routine := fun args => do
  let levels ← numberOr 1 args
  let p ← process
  if levels = 0 then giveUp ("Illegal number: " ++ args.headD "")
  else if p.loops = 0 then pure 0
  else leave (flow (min levels p.loops))

def shift : Routine := fun args => do
  let n ← numberOr 1 args
  let p ← process
  if p.args.length < n then giveUp "can't shift that many"
  else do
    modifyProcess fun p => { p with args := p.args.drop n }
    pure 0

def setOption (on : Bool) (letter : Char) : Act Unit :=
  if (optionNames.map (·.1)).contains letter then
    modifyProcess fun p =>
      { p with options := p.options.filter (· ≠ letter) ++ if on then [letter] else [] }
  else giveUp ("Illegal option -" ++ String.singleton letter)

def setLongOption (on : Bool) (name : String) : Act Unit :=
  match optionNames.find? (·.2 = name) with
  | some (letter, _) => setOption on letter
  | none => giveUp ("Illegal option -o " ++ name)

-- The options with the names that they are listed by.
def listOptions : Act Unit := do
  let p ← process
  write "Current option settings\n"
  let line (name : String) (on : Bool) : String :=
    name ++ String.ofList (List.replicate (16 - name.length) ' ') ++ (if on then "on" else "off")
      ++ "\n"
  forEach (fun (letter, name) => write (line name (p.has letter))) optionNames
  forEach (fun name => write (line name false)) ["nolog", "debug"]

def quoteText (text : String) : String :=
  "'" ++ String.intercalate "'\"'\"'" (Text.splitString '\x27' text) ++ "'"

-- Lists variables by name, each as a line to be read again.
def listVariables (front : String) (chosen : Variable → Bool) : Act Unit := do
  let p ← process
  let sorted := (p.bindings.filter chosen).mergeSort fun a b => a.name ≤ b.name
  forEach (fun v =>
    let value := match v.value with
      | some text => "=" ++ quoteText text
      | none => ""
    write (front ++ v.name ++ value ++ "\n")) sorted

def setArgs (args : List String) : Act Nat := do
  modifyProcess fun p => { p with args }
  pure 0

-- Options, and behind them the new arguments of the script.
def set : Routine
  | [] => do
    listVariables "" (·.value.isSome)
    pure 0
  | "--" :: rest => setArgs rest
  | ["-o"] | ["+o"] => do
    listOptions
    pure 0
  | "-o" :: name :: rest => do
    setLongOption true name
    if rest.isEmpty then pure 0 else set rest
  | "+o" :: name :: rest => do
    setLongOption false name
    if rest.isEmpty then pure 0 else set rest
  | arg :: rest =>
    match arg.toList with
    | sign :: letters =>
      if (sign = '-' || sign = '+') && !letters.isEmpty then do
        forEach (setOption (sign = '-')) letters
        if rest.isEmpty then pure 0 else set rest
      else setArgs (arg :: rest)
    | [] => setArgs (arg :: rest)

-- The name and, behind an equals sign, the value.
def nameAndValue (arg : String) : String × Option String :=
  let chars := arg.toList
  let name := String.ofList (chars.takeWhile (· ≠ '='))
  match chars.dropWhile (· ≠ '=') with
  | _ :: value => (name, some (String.ofList value))
  | [] => (name, none)

def isOption (arg : String) : Bool :=
  arg.toList.head? = some '-'

def checkName (name : String) : Act Unit :=
  if Parser.isName name.toList then pure () else giveUp (name ++ ": bad variable name")

-- Carries out a part for every name with its value, if it has one.
def eachName (part : String → Option String → Act Unit) (args : List String) : Act Nat := do
  forEach (fun arg => do
    let (name, value) := nameAndValue arg
    checkName name
    part name value) args
  pure 0

def assignIfGiven (name : String) : Option String → Act Unit
  | some value => assign name value
  | none => pure ()

-- Marks variables, or lists those that are marked.
def markVariables (command : String) (isMarked : Variable → Bool) (mark : Variable → Variable) :
    Routine := fun args => do
  let names := args.filter (!isOption ·)
  if names.isEmpty then do
    listVariables (command ++ " ") isMarked
    pure 0
  else
    eachName (fun name value => do
      assignIfGiven name value
      changeVariable name mark) names

def export' : Routine :=
  markVariables "export" (·.exported) fun v => { v with exported := true }

def readonly : Routine :=
  markVariables "readonly" (·.fixed) fun v => { v with fixed := true }

-- Remembers what a variable was before the function.
def keepLocal (name : String) : Act Unit :=
  modifyProcess fun p =>
    { p with locals := p.locals.map fun kept =>
        if kept.any (·.1 = name) then kept else (name, bindingOf? p name) :: kept }

def local' : Routine := fun args => do
  let p ← process
  if p.locals.isNone then giveUp "not in a function"
  else
    eachName (fun name value => do
      keepLocal name
      assignIfGiven name value) args

def unset : Routine := fun args => do
  let functions := args.head? = some "-f"
  forEach (fun name =>
    if functions then
      modifyProcess fun p => { p with functions := p.functions.filter (·.1 ≠ name) }
    else do
      checkName name
      Shell.unset name) (args.filter (!isOption ·))
  pure 0

def cd : Routine := fun args => do
  let p ← process
  let t ← files
  let target := match args with
    | "-" :: _ => lookup p "OLDPWD"
    | "--" :: target :: _ | target :: _ => some target
    | [] => lookup p "HOME"
  let path := target.getD ""
  match t.enter (if path.isEmpty then "." else path) with
  | .ok entered => do
    assign "OLDPWD" (FileTree.pathOf t.cwd)
    setFiles entered
    assign "PWD" (FileTree.pathOf entered.cwd)
    if args.head? = some "-" then write (FileTree.pathOf entered.cwd ++ "\n") else pure ()
    pure 0
  | .error _ => giveUp ("can't cd to " ++ path)

def pwd : Routine := fun _ => do
  let p ← process
  write (FileTree.pathOf p.cwd ++ "\n")
  pure 0

def echo : Routine := fun args => do
  writeBytes (Format.shellEcho args)
  pure 0

def faultText : Format.Fault → String
  | .notNumber text => text ++ ": expected numeric value"
  | .notWhollyNumber text => text ++ ": not completely converted"
  | .outOfRange text => text ++ ": Numerical result out of range"
  | .badDirective text => text ++ ": invalid directive"
  | .missingConversion => "missing format character"

def endsFormat : Format.Fault → Bool
  | .badDirective _ | .missingConversion => true
  | _ => false

-- What is wrong is said before anything is written.
def printf : Routine := fun args =>
  match if args.head? = some "--" then args.tail else args with
  | [] => giveUp "usage: printf format [arg ...]"
  | format :: rest =>
    match format.toList with
    | '-' :: c :: _ =>
      if args.head? = some "--" then print format rest
      else giveUp ("Illegal option -" ++ String.singleton c)
    | _ => print format rest
where
  print (format : String) (args : List String) : Act Nat := do
    let (events, _) := Format.formatted Format.shellDialect format args
    let faults := Format.faultsOf events
    forEach (fun f => complainHere (faultText f)) faults
    writeBytes (Format.textOf events)
    pure (if faults.any endsFormat then faultStatus else if faults.isEmpty then 0 else 1)

def truthStatus : Condition.Truth → Act Nat
  | .ok true => pure 0
  | .ok false => pure 1
  | .error fault => giveUp fault.message

def test : Routine := fun args => do
  let t ← files
  truthStatus (Condition.holds t args)

def bracket : Routine := fun args => do
  let t ← files
  truthStatus (Condition.holdsInBrackets t args)

/-! ### Reading -/

-- Joins lines whose end is escaped, and drops the other backslashes.
def unescaped : List Char → List Char
  | '\\' :: c :: rest => c :: unescaped rest
  | c :: rest => c :: unescaped rest
  | [] => []

def isEscapedEnd (line : List Char) : Bool :=
  (line.reverse.takeWhile (· = '\\')).length % 2 = 1

-- Gives the fields of a line to names; the last name takes the rest of the line.
def giveFields (separators : List Char) (names : List String) (line : List Char) : Act Unit :=
  let isBlank (c : Char) : Bool := separators.contains c && " \t\n".toList.contains c
  let line := line.dropWhile isBlank
  match names with
  | [] => pure ()
  | [name] => assign name (String.ofList (line.reverse.dropWhile isBlank).reverse)
  | name :: names => do
    assign name (String.ofList (line.takeWhile (!separators.contains ·)))
    let rest := (line.dropWhile (!separators.contains ·)).dropWhile isBlank
    giveFields separators names (match rest with
      | c :: more => if separators.contains c then more else rest
      | [] => [])

-- A line and those that it is joined with.
def takeJoined : Nat → Act (List Char × Bool)
  | 0 => pure ([], false)
  | count + 1 => do
    let (bytes, ended) ← takeLine
    let line := (Text.Utf8.decodeStringLossy bytes).toList
    if ended && isEscapedEnd line then do
      let (more, ended) ← takeJoined count
      pure (line.dropLast ++ more, ended)
    else pure (line, ended)

def read : Routine := fun args => do
  let raw := args.head? = some "-r"
  let names := args.filter (!isOption ·)
  if names.isEmpty then giveUp "arg count" else pure ()
  forEach checkName names
  let (line, ended) ←
    if raw then do
      let (bytes, ended) ← takeLine
      pure ((Text.Utf8.decodeStringLossy bytes).toList, ended)
    else do
      let (line, ended) ← takeJoined 1000
      pure (unescaped line, ended)
  let p ← process
  giveFields (separators p) names line
  pure (if ended then 0 else 1)

/-! ### Signals -/

-- A signal by its number or its name without `SIG`.
def signal? (text : String) : Option Nat :=
  match digits? text with
  | some n => if n < 65 then some n else none
  | none => (signalNames.find? (·.2.1 = text.toUpper)).map (·.1)

def trapName? (text : String) : Option String :=
  if text = "0" || text.toUpper = "EXIT" then some "EXIT"
  else (signal? text).map signalName

def setTrap (action : Option String) (name : String) : Act Unit :=
  modifyProcess fun p =>
    let others := p.traps.filter (·.1 ≠ name)
    match action with
    | some action => { p with traps := others ++ [(name, action)] }
    | none => { p with traps := others }

def setTraps (action : Option String) : List String → Act Nat
  | [] => pure 0
  | text :: rest =>
    match trapName? text with
    | some name => do
      setTrap action name
      setTraps action rest
    | none => do
      complain ("trap: " ++ text ++ ": bad trap")
      pure 1

def trap : Routine := fun args =>
  match if args.head? = some "--" then args.tail else args with
  | [] => do
    let p ← process
    forEach (fun (name, action) => write ("trap -- '" ++ action ++ "' " ++ name ++ "\n")) p.traps
    pure 0
  | [name] => setTraps none [name]
  | action :: names =>
    if action = "-" || (digits? action).isSome then
      setTraps none (if action = "-" then names else action :: names)
    else setTraps (some action) names

-- Sends a signal to a process, which may be the sender itself.
def sendTo (number signal : Nat) : Act Bool := do
  let p ← process
  let w ← world
  if signal = 0 then pure (number < w.next)
  else if number = p.number then do
    suffer signal
    pure true
  else
    match w.jobs.find? (·.process = number) with
    | some job => do
      if job.finish.any (· ≤ p.clock) then pure ()
      else
        match effectOf signal with
        | .nothing => pure ()
        | .halt =>
          modifyWorld fun w => { w with jobs := w.jobs.map fun j =>
            if j.process = number then { j with finish := none } else j }
        | .death => endJob job p.clock signal
      pure true
    | none =>
      if p.first ≤ number && number < w.next then do
        modifyWorld fun w => { w with signals := w.signals ++ [⟨number, p.clock, signal⟩] }
        pure true
      else pure false

-- Sends a signal to all processes of the group.
def sendToGroup (signal : Nat) : Act Bool := do
  let p ← process
  if p.number = p.first then sendTo p.number signal
  else do
    let _ ← sendTo p.first signal
    sendTo p.number signal

def sendToEach (signal : Nat) : List String → Act Nat
  | [] => pure 0
  | target :: rest => do
    let p ← process
    let sent ←
      if target = "0" || target = "-" ++ toString p.first then sendToGroup signal
      else
        match digits? target with
        | some number => sendTo number signal
        | none => giveUp ((if target.toList.head? = some '%' then "No such job: "
            else "Illegal number: ") ++ target)
    if sent then pure () else complainHere "No such process\n"
    let status ← sendToEach signal rest
    pure (if sent then status else 1)

-- The name of a signal in a list of them.
def listedName (number : Nat) : String :=
  if number = 16 then "16"
  else if 34 ≤ number && number < 50 then
    "RTMIN" ++ if number = 34 then "" else "+" ++ toString (number - 34)
  else if 50 ≤ number && number ≤ 64 then
    "RTMAX" ++ if number = 64 then "" else "-" ++ toString (64 - number)
  else signalName number

def kill : Routine
  | ["-l"] => do
    forEach (fun n => write (listedName n ++ "\n")) (List.range 65)
    pure 0
  | "-l" :: text :: _ =>
    match digits? text with
    | some n => do
      write (listedName (if 128 < n then n - 128 else n) ++ "\n")
      pure 0
    | none => giveUp ("invalid signal number or name: " ++ text)
  | ["-s"] => giveUp "No arg for -s option"
  | "-s" :: name :: targets =>
    match signal? name with
    | some signal => sendToEach signal targets
    | none => giveUp ("invalid signal number or name: " ++ name)
  | "--" :: targets => sendToEach 15 targets
  | arg :: targets =>
    match arg.toList with
    | '-' :: name =>
      match signal? (String.ofList name) with
      | some signal =>
        sendToEach signal (if targets.head? = some "--" then targets.tail else targets)
      | none => giveUp ("Illegal option -" ++ String.ofList (name.take 1))
    | _ => sendToEach 15 (arg :: targets)
  | [] => giveUp ("Usage: kill [-s sigspec | -signum | -sigspec] [pid | job]... or\n"
      ++ "kill -l [exitstatus]")

-- Waits up to a moment, or until a signal arrives that a command is set on.
def waitOrWake (time : Nat) : Act (Option Nat) := do
  let p ← process
  let w ← world
  let trapped (s : Signal) : Bool := (trapOf p (signalName s.number)).any (!·.isEmpty)
  match w.signals.filter fun s => s.process = p.number && s.time ≤ time && trapped s with
  | s :: _ => do
    waitUntil s.time
    pure (some (128 + s.number))
  | [] => do
    waitUntil time
    pure none

def waitForJob (job : Job) : Act Nat := do
  let p ← process
  let w ← world
  let woken ← waitOrWake (job.finish.getD (w.limitOf p + 1))
  match woken with
  | some status => pure status
  | none => do
    if job.finish.any (p.noticed < ·) then report job.ending else pure ()
    pure job.ending.status

def waitForAll : List Job → Act Nat
  | [] => pure 0
  | job :: rest => do
    let p ← process
    let w ← world
    let woken ← waitOrWake (job.finish.getD (w.limitOf p + 1))
    match woken with
    | some status => pure status
    | none => waitForAll rest

def waitForEach : List String → Nat → Act Nat
  | [], status => pure status
  | text :: rest, _ => do
    let p ← process
    let w ← world
    match w.jobs.find? fun j => toString j.process = text && j.parent = p.number with
    | some job => do
      let status ← waitForJob job
      waitForEach rest status
    | none =>
      if (digits? text).isSome then waitForEach rest 127
      else giveUp ((if text.toList.head? = some '%' then "No such job: " else "Illegal number: ")
        ++ text)

def wait : Routine := fun args => do
  let p ← process
  let w ← world
  if args.isEmpty then waitForAll (w.jobs.filter (·.parent = p.number)).reverse
  else waitForEach args 0

def umask : Routine
  | [] => do
    write "0022\n"
    pure 0
  | "-S" :: _ => do
    write "u=rwx,g=rx,o=rx\n"
    pure 0
  | _ => pure 0

def find? (name : String) : Option Routine :=
  match name with
  | ":" | "true" | "ulimit" | "times" | "hash" | "jobs" => some fun _ => pure 0
  | "false" => some fun _ => pure 1
  | "umask" => some umask
  | "echo" => some echo
  | "printf" => some printf
  | "test" => some test
  | "[" => some bracket
  | "exit" => some exit
  | "return" => some return'
  | "break" => some (leaveLoop .brokeOff)
  | "continue" => some (leaveLoop .continued)
  | "shift" => some shift
  | "set" => some set
  | "export" => some export'
  | "readonly" => some readonly
  | "local" => some local'
  | "unset" => some unset
  | "cd" => some cd
  | "pwd" => some pwd
  | "read" => some read
  | "trap" => some trap
  | "kill" => some kill
  | "wait" => some wait
  | _ => none

def isSpecial (name : String) : Bool :=
  Parser.languageNames.contains name

end CourseAudit.Shell.Builtin
