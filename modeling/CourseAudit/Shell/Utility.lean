import CourseAudit.Regex.Compile
import CourseAudit.Shell.Condition
import CourseAudit.Shell.Format
import CourseAudit.Shell.Process

/-!
The usual small programs. Each ends with a status.
-/
namespace CourseAudit.Shell.Utility

open Act
open Text.Utf8 (Bytes)

def complainOf (program text : String) : Act Unit :=
  complain (program ++ ": " ++ text)

-- Tells of a wrong use of a program.
def complainOfUse (program text : String) : Act Unit := do
  complainOf program text
  complain ("Try '" ++ program ++ " --help' for more information.")

-- A path as a complaint shows it: in quotes if nothing else would be seen.
def shownPath (path : String) : String :=
  if path.isEmpty then "\x27\x27" else path

-- Options of one letter, wherever they stand, and the other arguments.
def options : List String → List Char × List String
  | [] => ([], [])
  | "--" :: rest => ([], rest)
  | arg :: rest =>
    let (letters, operands) := options rest
    match arg.toList with
    | '-' :: c :: more => (c :: more ++ letters, operands)
    | _ => (letters, arg :: operands)

-- Refuses options that a program does not have.
def withOptions (program : String) (known : String) (status : Nat)
    (part : List Char → List String → Act Nat) : Routine := fun args => do
  let (letters, operands) := options args
  match letters.find? (!known.toList.contains ·) with
  | some c => do
    complainOfUse program ("invalid option -- '" ++ String.singleton c ++ "'")
    pure status
  | none => part letters operands

-- Carries out a part for every argument; the status is 1 if any of them failed.
def eachArgument (part : String → Act Bool) : List String → Act Nat
  | [] => pure 0
  | a :: rest => do
    let good ← part a
    let status ← eachArgument part rest
    pure (if good then status else 1)

def readFile (path : String) : Act (Except OsError Bytes) := do
  let t ← files
  pure (if path = nothingPath then .ok [] else t.read ⟨path⟩)

-- How `cat` shows a text.
structure View where
  numbers : Bool
  numbersFull : Bool
  squeezes : Bool
  ends : Bool
  tabs : Bool
  signs : Bool

def View.ofLetters (letters : List Char) : View :=
  let has (s : String) : Bool := letters.any s.toList.contains
  ⟨has "n", has "b", has "s", has "EAe", has "TAt", has "vAet"⟩

-- Where in a text `cat` is: the lines counted, whether one begins, and the empty ones in a row.
structure Position where
  count : Nat
  begins : Bool
  blanks : Nat

def shownByte (v : View) (b : UInt8) : Bytes :=
  if b = 9 then if v.tabs then [94, 73] else [b]
  else if !v.signs then [b]
  else
    let (front, b) : Bytes × UInt8 := if 128 ≤ b then ([77, 45], b - 128) else ([], b)
    front ++ if b < 32 then [94, b + 64] else if b = 127 then [94, 63] else [b]

def numberText (count : Nat) : Bytes :=
  let digits := toString count
  Text.Utf8.encodeString (String.ofList (List.replicate (6 - digits.length) ' ') ++ digits ++ "\t")

def showByte (v : View) : Position × List Bytes → UInt8 → Position × List Bytes
  | (at', shown), b =>
    let lineEnd : Bytes := if v.ends then [36, 10] else [10]
    if b = 10 then
      if !at'.begins then ({ at' with begins := true, blanks := 0 }, lineEnd :: shown)
      else if v.squeezes && 1 ≤ at'.blanks then (at', shown)
      else if v.numbers && !v.numbersFull then
        (⟨at'.count + 1, true, at'.blanks + 1⟩, (numberText (at'.count + 1) ++ lineEnd) :: shown)
      else ({ at' with blanks := at'.blanks + 1 }, lineEnd :: shown)
    else if at'.begins && (v.numbers || v.numbersFull) then
      (⟨at'.count + 1, false, 0⟩, (numberText (at'.count + 1) ++ shownByte v b) :: shown)
    else (⟨at'.count, false, 0⟩, shownByte v b :: shown)

-- Shows a piece of a text and tells where the next one begins.
def showPiece (v : View) (at' : Position) (bytes : Bytes) : Act Position := do
  let (at', shown) := bytes.foldl (showByte v) (at', [])
  writeBytes shown.reverse.flatten
  pure at'

def showPieces (v : View) (at' : Position) : List Chunk → Act Position
  | [] => pure at'
  | c :: rest => do
    waitUntil c.time
    let at' ← showPiece v at' c.bytes
    showPieces v at' rest

-- The standard input is shown as it comes.
def showInput (v : View) (at' : Position) : Act Position := do
  match ← inputSupply with
  | some s => do
    setSupply s.number []
    let at' ← showPieces v at' s.content
    waitUntil s.ready
    pure at'
  | none => pure at'

def catFrom (v : View) (at' : Position) : List String → Act Nat
  | [] => pure 0
  | path :: rest =>
    if path = "-" then do
      let at' ← showInput v at'
      catFrom v at' rest
    else do
      match ← readFile path with
      | .ok bytes => do
        let at' ← showPiece v at' bytes
        catFrom v at' rest
      | .error e => do
        complainOf "cat" (shownPath path ++ ": " ++ e.brief)
        let _ ← catFrom v at' rest
        pure 1

def cat : Routine :=
  withOptions "cat" "AbeEnstTuv" 1 fun letters paths =>
    catFrom (View.ofLetters letters) ⟨0, true, 0⟩ (if paths.isEmpty then ["-"] else paths)

-- Seconds with a unit: `s`, `m`, `h` or `d`.
def micros? (text : String) : Option Nat :=
  let chars := text.toList
  let (number, unit) := match chars.reverse with
    | 's' :: rest => (rest.reverse, 1)
    | 'm' :: rest => (rest.reverse, 60)
    | 'h' :: rest => (rest.reverse, 3600)
    | 'd' :: rest => (rest.reverse, 86400)
    | _ => (chars, 1)
  if number = "infinity".toList || number = "inf".toList then some (Nat.pow 10 18)
  else
    let (whole, rest) := Decimal.takeDigits number
    let (places, rest) := match rest with
      | '.' :: rest => Decimal.takeDigits rest
      | rest => ([], rest)
    if !rest.isEmpty || (whole.isEmpty && places.isEmpty) then none
    else
      let padded := (places ++ List.replicate 6 '0').take 6
      some (Decimal.digitsValue (whole ++ padded) * unit)

def sleep : Routine :=
  withOptions "sleep" "" 1 fun _ args =>
    if args.isEmpty then do
      complainOfUse "sleep" "missing operand"
      pure 1
    else
      match args.mapM micros? with
      | some times => do
        spend (times.foldl (· + ·) 0)
        pure 0
      | none => do
        let bad := args.filter fun a => (micros? a).isNone
        forEach (fun a => complainOf "sleep" ("invalid time interval '" ++ a ++ "'")) bad
        complain "Try 'sleep --help' for more information."
        pure 1

def echo : Routine := fun args => do
  writeBytes (Format.programEcho args)
  pure 0

def faultText : Format.Fault → String
  | .notNumber text => "'" ++ text ++ "': expected a numeric value"
  | .notWhollyNumber text => "'" ++ text ++ "': value not completely converted"
  | .outOfRange text => "'" ++ text ++ "': Numerical result out of range"
  | .badDirective text => text ++ ": invalid conversion specification"
  | .missingConversion => "%: invalid conversion specification"

def printf : Routine := fun args => do
  match if args.head? = some "--" then args.tail else args with
  | [] => do
    complainOfUse "printf" "missing operand"
    pure 1
  | format :: args => do
    let (events, unused) := Format.formatted Format.programDialect format args
    forEach (fun
      | .text bytes => writeBytes bytes
      | .fault f => complainOf "printf" (faultText f)) events
    match unused with
    | [] => pure ()
    | arg :: _ =>
      complainOf "printf" ("warning: ignoring excess arguments, starting with '" ++ arg ++ "'")
    pure (if (Format.faultsOf events).isEmpty then 0 else 1)

def conditionText : Condition.Fault → String
  | .illegalNumber text => "invalid integer '" ++ text ++ "'"
  | .unexpectedOperator text => "extra argument '" ++ text ++ "'"
  | .missingBracket => "missing ']'"
  | .missingArgument operator => "missing argument after '" ++ operator ++ "'"
  | .missingParenthesis => "')' expected"

def conditionStatus (program : String) (truth : Condition.Truth) : Act Nat :=
  match truth with
  | .ok true => pure 0
  | .ok false => pure 1
  | .error fault => do
    complainOf program (conditionText fault)
    pure 2

def test : Routine := fun args => do
  let t ← files
  conditionStatus "test" (Condition.holds t args)

def bracket : Routine := fun args => do
  let t ← files
  conditionStatus "[" (Condition.holdsInBrackets t args)

def pwd : Routine := fun _ => do
  let p ← process
  write (FileTree.pathOf p.cwd ++ "\n")
  pure 0

-- What `ls` shows of a directory and of a file in it.
structure Listing where
  hidden : Bool
  dots : Bool
  backwards : Bool
  deep : Bool
  marks : Bool
  slashes : Bool

def Listing.ofLetters (letters : List Char) : Listing :=
  ⟨letters.contains 'a' || letters.contains 'A', letters.contains 'a', letters.contains 'r',
    letters.contains 'R', letters.contains 'F', letters.contains 'p'⟩

def Listing.sorted (l : Listing) (names : List String) : List String :=
  let sorted := names.mergeSort
  if l.backwards then sorted.reverse else sorted

-- A mark behind the name tells what kind of file it is.
def Listing.mark (l : Listing) (t : FileTree) (path : String) : String :=
  match t.node false path with
  | .ok (.directory _) => if l.marks || l.slashes then "/" else ""
  | .ok (.file _ executable) => if l.marks && executable then "*" else ""
  | .ok (.link _) => if l.marks then "@" else ""
  | .error _ => ""

def childPath (directory name : String) : String :=
  ((⟨directory⟩ : Path).join name).text

def Listing.namesIn (l : Listing) (t : FileTree) (directory : String) : List String :=
  match t.list ⟨directory⟩ with
  | .ok entries =>
    let names := (entries.map (·.name)).filter fun n => l.hidden || n.toList.head? ≠ some '.'
    l.sorted ((if l.dots then [".", ".."] else []) ++ names)
  | .error _ => []

-- Directories in the order in which they are listed, with those inside of them if that is wanted.
def Listing.directories (l : Listing) (t : FileTree) : Nat → List String → List String
  | 0, paths => paths
  | depth + 1, paths =>
    if !l.deep then paths
    else
      paths.flatMap fun path =>
        let inside := (l.namesIn t path).filter fun n =>
          n ≠ "." && n ≠ ".." &&
            match t.node false (childPath path n) with
            | .ok (.directory _) => true
            | _ => false
        path :: l.directories t depth (inside.map (childPath path))

-- Lists files first and then directories, each with its name above if there are more than one.
def list (letters : List Char) (paths : List String) : Act Nat := do
  let t ← files
  let l := Listing.ofLetters letters
  let paths := if paths.isEmpty then ["."] else paths
  let missing := paths.filter fun p => !(t.node false p).toOption.isSome
  forEach (fun p => do
    match t.node false p with
    | .error e => complainOf "ls" ("cannot access '" ++ p ++ "': " ++ e.brief)
    | .ok _ => pure ()) missing
  let present := l.sorted (paths.filter fun p => (t.node false p).toOption.isSome)
  let (directories, plain) := present.partition fun p => t.isDirectory ⟨p⟩ && !letters.contains 'd'
  forEach (fun p => write (p ++ l.mark t p ++ "\n")) plain
  let titled := 1 < paths.length || l.deep
  let sections := (l.directories t 100 directories).map fun p =>
    (if titled then p ++ ":\n" else "") ++
      String.join ((l.namesIn t p).map fun n => n ++ l.mark t (childPath p n) ++ "\n")
  let space := if plain.isEmpty || sections.isEmpty then "" else "\n"
  write (space ++ String.intercalate "\n" sections)
  pure (if missing.isEmpty then 0 else 2)

def ls : Routine :=
  withOptions "ls" "aAbBcCdDfFgGhHiklLmnNopqQrRsStTuUvxXZ1" 2 list

-- The basic notation of patterns in the extended one: there, parentheses, braces and some signs
-- need no backslash to be special.
def extended : List Char → List Char
  | '\\' :: c :: rest =>
    if "()\x7b\x7d+?|".toList.contains c then c :: extended rest else '\\' :: c :: extended rest
  | c :: rest =>
    if "()\x7b\x7d+?|".toList.contains c then '\\' :: c :: extended rest else c :: extended rest
  | [] => []

def lineMatcher (letters : List Char) (pattern : String) : Option (String → Bool) :=
  let fold (s : String) : String := if letters.contains 'i' then s.toLower else s
  if letters.contains 'F' then some fun line => Text.containsString (fold pattern) (fold line)
  else
    let text :=
      if letters.contains 'E' then pattern else String.ofList (extended pattern.toList)
    let text := if letters.contains 'i' then "(?i)" ++ text else text
    let text := if letters.contains 'x' then "^(?:" ++ text ++ ")$" else text
    match Regex.compile text with
    | .ok r => some fun line => r.isMatch line.toList
    | .error _ => none

structure Search where
  letters : List Char
  titled : Bool
  matcher : String → Bool

-- The lines of a file that match, and whether there are any.
def searchFile (s : Search) (path : String) (bytes : Bytes) : Act Bool := do
  let lines := Text.linesOfString (Text.Utf8.decodeStringLossy bytes)
  let numbered := lines.zipIdx 1
  let found := numbered.filter fun (line, _) => s.matcher line != s.letters.contains 'v'
  let title := if s.titled then path ++ ":" else ""
  if s.letters.contains 'q' then pure ()
  else if s.letters.contains 'c' then write (title ++ toString found.length ++ "\n")
  else if s.letters.contains 'l' then
    if found.isEmpty then pure () else write (path ++ "\n")
  else
    forEach (fun (line, n) =>
      let number := if s.letters.contains 'n' then toString n ++ ":" else ""
      write (title ++ number ++ line ++ "\n")) found
  pure !found.isEmpty

def searchAll (s : Search) : List String → Act (Bool × Bool)
  | [] => pure (false, false)
  | path :: rest => do
    let read ←
      if path = "-" then do
        let bytes ← takeInput
        pure (Except.ok bytes)
      else readFile path
    let (found, failed) ← match read with
      | .ok bytes => do
        let found ← searchFile s path bytes
        pure (found, false)
      | .error e => do
        if s.letters.contains 's' then pure ()
        else complainOf "grep" (path ++ ": " ++ e.brief)
        pure (false, true)
    if found && s.letters.contains 'q' then pure (true, false)
    else
      let (more, moreFailed) ← searchAll s rest
      pure (found || more, failed || moreFailed)

def grep : Routine := fun args => do
  let (letters, rest) := options args
  match rest with
  | [] => do
    complain "Usage: grep [OPTION]... PATTERNS [FILE]..."
    pure 2
  | pattern :: paths =>
    match lineMatcher letters pattern with
    | none => do
      complainOf "grep" "Invalid regular expression"
      pure 2
    | some matcher => do
      let titled := 1 < paths.length && !letters.contains 'h'
      let (found, failed) ←
        searchAll ⟨letters, titled, matcher⟩ (if paths.isEmpty then ["-"] else paths)
      pure (if found && (letters.contains 'q' || !failed) then 0 else if failed then 2 else 1)

-- Whether a mode makes a file a program; `none` if it says nothing about that.
def modeExecutable? (mode : String) : Option Bool :=
  let chars := mode.toList
  if !chars.isEmpty && chars.all Format.isOctal then
    some (chars.any fun c => (c.toNat - '0'.toNat) % 2 = 1)
  else if !chars.contains 'x' then none
  else some !(chars.contains '-')

def chmod : Routine := fun args =>
  match args with
  | mode :: paths =>
    eachArgument (fun path => do
      let t ← files
      match t.node true path, modeExecutable? mode with
      | .ok _, none => pure true
      | .ok _, some executable => do
        match t.setExecutable path executable with
        | .ok t => do
          setFiles t
          pure true
        | .error _ => pure false
      | .error e, _ => do
        complainOf "chmod" ("cannot access '" ++ path ++ "': " ++ e.brief)
        pure false) paths
  | [] => do
    complainOfUse "chmod" "missing operand"
    pure 1

def mkdir : Routine := fun args => do
  let (letters, paths) := options args
  eachArgument (fun path => do
    let t ← files
    let made := if letters.contains 'p' then t.makeDirectories ⟨path⟩ else t.makeDirectory path
    match made with
    | .ok t => do
      setFiles t
      pure true
    | .error e => do
      complainOf "mkdir" ("cannot create directory '" ++ path ++ "': " ++ e.brief)
      pure false) paths

def rm : Routine := fun args => do
  let (letters, paths) := options args
  let deep := letters.contains 'r' || letters.contains 'R'
  let force := letters.contains 'f'
  eachArgument (fun path => do
    let t ← files
    let refuse (text : String) : Act Bool := do
      complainOf "rm" ("cannot remove '" ++ path ++ "': " ++ text)
      pure false
    match t.node false path with
    | .error e => if force then pure true else refuse e.brief
    | .ok (.directory _) =>
      if deep then
        match t.remove path with
        | .ok t => do
          setFiles t
          pure true
        | .error e => refuse e.brief
      else refuse OsError.isDirectory.brief
    | .ok _ =>
      match t.remove path with
      | .ok t => do
        setFiles t
        pure true
      | .error e => refuse e.brief) paths

def touch : Routine := fun args => do
  let (_, paths) := options args
  eachArgument (fun path => do
    let t ← files
    match t.node true path with
    | .ok _ => pure true
    | .error _ =>
      match t.write path [] with
      | .ok t => do
        setFiles t
        pure true
      | .error e => do
        complainOf "touch" ("cannot touch '" ++ path ++ "': " ++ e.brief)
        pure false) paths

def joinLines (lines : List String) : String :=
  String.join (lines.map (· ++ "\n"))

-- The number of lines that `head` and `tail` show, and the files they show it of.
def lineCount (args : List String) : Nat × List String :=
  match args with
  | "-n" :: n :: rest => (n.toNat?.getD 10, rest)
  | arg :: rest =>
    match arg.toList with
    | '-' :: 'n' :: digits => ((String.ofList digits).toNat?.getD 10, rest)
    | '-' :: digits =>
      if digits.isEmpty then (10, arg :: rest) else ((String.ofList digits).toNat?.getD 10, rest)
    | _ => (10, arg :: rest)
  | [] => (10, [])

-- Shows lines of the standard input as long as there are any.
def showLines : Nat → Act Unit
  | 0 => pure ()
  | count + 1 => do
    let (line, ended) ← takeLine
    writeBytes (line ++ if ended then [10] else [])
    if ended then showLines count else pure ()

def cutFile (program : String) (cut : List String → List String) (path : String) : Act Bool := do
  match ← readFile path with
  | .ok bytes => do
    write (joinLines (cut (Text.linesOfString (Text.Utf8.decodeStringLossy bytes))))
    pure true
  | .error e => do
    complainOf program ("cannot open '" ++ path ++ "' for reading: " ++ e.brief)
    pure false

def head : Routine := fun args => do
  let (count, paths) := lineCount args
  eachArgument (fun path =>
    if path = "-" then do
      showLines count
      pure true
    else cutFile "head" (·.take count) path) (if paths.isEmpty then ["-"] else paths)

def tail : Routine := fun args => do
  let (count, paths) := lineCount args
  let last (lines : List String) : List String := lines.drop (lines.length - count)
  eachArgument (fun path =>
    if path = "-" then do
      let bytes ← takeInput
      write (joinLines (last (Text.linesOfString (Text.Utf8.decodeStringLossy bytes))))
      pure true
    else cutFile "tail" last path) (if paths.isEmpty then ["-"] else paths)

def numbers (first step last : Int) : Nat → List Int
  | 0 => []
  | count + 1 =>
    if (0 < step && last < first) || (step < 0 && first < last) || step = 0 then []
    else first :: numbers (first + step) step last count

def seq : Routine := fun args => do
  let print (first step last : Int) : Act Nat := do
    let count := (last - first).natAbs + 1
    write (joinLines ((numbers first step last count).map toString))
    pure 0
  match args.mapM String.toInt? with
  | some [last] => print 1 1 last
  | some [first, last] => print first 1 last
  | some [first, step, last] => print first step last
  | _ => do
    complainOf "seq" "invalid argument"
    pure 1

-- The programs that do not start others.
def find? (name : String) : Option Routine :=
  match name with
  | "true" => some fun _ => pure 0
  | "false" => some fun _ => pure 1
  | "cat" => some cat
  | "sleep" => some sleep
  | "echo" => some echo
  | "printf" => some printf
  | "test" => some test
  | "[" => some bracket
  | "pwd" => some pwd
  | "ls" => some ls
  | "grep" => some grep
  | "chmod" => some chmod
  | "mkdir" => some mkdir
  | "rm" => some rm
  | "touch" => some touch
  | "head" => some head
  | "tail" => some tail
  | "seq" => some seq
  | _ => none

def names : List String :=
  ["true", "false", "cat", "sleep", "echo", "printf", "test", "[", "pwd", "ls", "grep", "chmod",
    "mkdir", "rm", "touch", "head", "tail", "seq"]

end CourseAudit.Shell.Utility
