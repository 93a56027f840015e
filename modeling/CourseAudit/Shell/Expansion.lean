import CourseAudit.Shell.Arithmetic
import CourseAudit.Shell.Pattern
import CourseAudit.Shell.Process

/-!
What words stand for: parameters, the output of commands and expressions are put in, the result is
split into fields, and fields that are patterns are looked up among the files.

What is nested in a word is left to `Deeper`, which carries out one level less.
-/
namespace CourseAudit.Shell

open Act
open Text.Utf8 (Bytes)

-- A part of an expanded word.
inductive Piece where
  | marks (ms : List Mark)
  -- A text that is split into fields.
  | loose (text : List Char)
  -- Makes a field even if it stays empty.
  | present
  | boundary

-- Carries out what stands inside; `last` tells that the process ends with the command.
structure Deeper where
  run : (last : Bool) → Command → Act Unit
  pieces : Word → Act (List Piece)

def quotedPieces (text : String) : List Piece :=
  [.present, .marks (text.toList.map fun c => ⟨c, true⟩)]

def valuePieces (quoted : Bool) (text : String) : List Piece :=
  if quoted then quotedPieces text else [.loose text.toList]

-- The marks of a word that is not split.
def joinPieces (ps : List Piece) : List Mark :=
  ps.flatMap fun
    | .marks ms => ms
    | .loose text => text.map fun c => ⟨c, false⟩
    | .present => []
    | .boundary => [⟨' ', false⟩]

def marksText (ms : List Mark) : String :=
  String.ofList (ms.map (·.char))

def piecesText (ps : List Piece) : String :=
  marksText (joinPieces ps)

-- In the place of a value, what does not stand in quotes is split.
def loosen : Piece → List Piece
  | .marks ms =>
    ms.map fun m => if m.quoted then .marks [m] else .loose [m.char]
  | p => [p]

def separators (p : Process) : List Char :=
  ((lookup p "IFS").getD " \t\n").toList

-- Fields on the way: those that are done, and the present one, if it has begun. A field that a
-- blank has ended is not ended again by the separator behind the blank.
structure Fields where
  done : List (List Mark)
  current : Option (List Mark)
  afterBlank : Bool

namespace Fields

def start : Fields := ⟨[], none, false⟩

def finish (f : Fields) : Fields :=
  match f.current with
  | some ms => { f with done := ms.reverse :: f.done, current := none }
  | none => f

def add (f : Fields) (m : Mark) : Fields :=
  { f with current := some (m :: f.current.getD []), afterBlank := false }

def split (separators : List Char) (f : Fields) (c : Char) : Fields :=
  if !separators.contains c then f.add ⟨c, false⟩
  else if c = ' ' || c = '\t' || c = '\n' then
    if f.current.isSome then { f.finish with afterBlank := true } else f
  else if f.afterBlank then { f with afterBlank := false }
  else { f with current := some (f.current.getD []) }.finish

def piece (separators : List Char) (f : Fields) : Piece → Fields
  | .marks ms => ms.foldl add f
  | .loose text => text.foldl (split separators) f
  | .present => { f with current := some (f.current.getD []) }
  | .boundary => f.finish

def all (f : Fields) : List (List Mark) :=
  f.finish.done.reverse

end Fields

def splitFields (separators : List Char) (ps : List Piece) : List (List Mark) :=
  (ps.foldl (Fields.piece separators) .start).all

/-! ### Names of files -/

def splitMarks : List Mark → List (List Mark)
  | [] => [[]]
  | m :: rest =>
    if m.char = '/' then [] :: splitMarks rest
    else
      match splitMarks rest with
      | [] => [[m]]
      | first :: more => (m :: first) :: more

-- The files below a beginning of a path that match the components behind it.
def matchesBelow (t : FileTree) (base : String) : List (List Mark) → List String
  | [] => []
  | component :: rest =>
    let names :=
      if Pattern.isPattern component then
        let atoms := Pattern.atoms component
        let hidden := component.head?.map (·.char) = some '.'
        match t.list ⟨if base.isEmpty then "." else base⟩ with
        | .ok entries =>
          (entries.map (·.name)).filter fun n =>
            Pattern.isMatch atoms n.toList && (hidden || n.toList.head? ≠ some '.')
        | .error _ => []
      else [marksText component]
    match rest with
    | [] => (names.map (base ++ ·)).filter fun path => (t.node false path).toOption.isSome
    | rest => names.flatMap fun n => matchesBelow t (base ++ n ++ "/") rest

-- The files that a field stands for, or the field itself if there are none or they are not looked
-- for.
def filesOf (t : FileTree) (looksUp : Bool) (field : List Mark) : List String :=
  if looksUp && Pattern.isPattern field then
    match matchesBelow t "" (splitMarks field) with
    | [] => [marksText field]
    | paths => paths
  else [marksText field]

/-! ### Parameters -/

-- The options of the shell: the letter and the name.
def optionNames : List (Char × String) := [
  ('e', "errexit"),
  ('f', "noglob"),
  ('I', "ignoreeof"),
  ('i', "interactive"),
  ('m', "monitor"),
  ('n', "noexec"),
  ('s', "stdin"),
  ('x', "xtrace"),
  ('v', "verbose"),
  ('V', "vi"),
  ('E', "emacs"),
  ('C', "noclobber"),
  ('a', "allexport"),
  ('b', "notify"),
  ('u', "nounset"),
  ('p', "privileged")]

def optionLetters (p : Process) : String :=
  String.ofList ((optionNames.map (·.1)).filter p.has).reverse

def parameterValue? (p : Process) (name : String) : Option String :=
  match name with
  | "#" => some (toString p.args.length)
  | "?" => some (toString p.status)
  | "$" => some (toString p.shell)
  | "!" => p.lastJob.map toString
  | "-" => some (optionLetters p)
  | "0" => some p.name
  | "@" | "*" => if p.args.isEmpty then none else some (String.intercalate " " p.args)
  | name =>
    if name.toList.all Char.isDigit then
      p.args[(name.toNat?.getD 0) - 1]?
    else lookup p name

def argumentPieces (quoted : Bool) (args : List String) : List Piece :=
  match args with
  | [] => []
  | first :: rest =>
    valuePieces quoted first ++ rest.flatMap fun a => .boundary :: valuePieces quoted a

def plainPieces (p : Process) (name : String) (quoted : Bool) : List Piece :=
  match name, quoted with
  | "@", quoted => argumentPieces quoted p.args
  | "*", false => argumentPieces false p.args
  | "*", true =>
    let separator := match separators p with
      | c :: _ => String.singleton c
      | [] => ""
    quotedPieces (String.intercalate separator p.args)
  | name, quoted => valuePieces quoted ((parameterValue? p name).getD "")

def isMissing (orEmpty : Bool) (value : Option String) : Bool :=
  match value with
  | none => true
  | some text => orEmpty && text.isEmpty

def expandParameter (d : Deeper) (name : String) (change : Change) (quoted : Bool) :
    Act (List Piece) := do
  let p ← process
  let value := parameterValue? p name
  let nested (word : Word) : Act (List Piece) := do
    let ps ← d.pieces word
    pure (if quoted then .present :: ps else ps.flatMap loosen)
  match change with
  | .none =>
    if value.isNone && p.has 'u' && name ≠ "@" && name ≠ "*" then
      giveUp (name ++ ": parameter not set")
    else pure (plainPieces p name quoted)
  | .length =>
    pure (valuePieces quoted (toString (value.getD "").utf8ByteSize))
  | .default orEmpty word =>
    if isMissing orEmpty value then nested word else pure (plainPieces p name quoted)
  | .alternative orEmpty word =>
    if isMissing orEmpty value then pure (if quoted then [.present] else []) else nested word
  | .assign orEmpty word =>
    if isMissing orEmpty value then do
      let ps ← d.pieces word
      assign name (piecesText ps)
      pure (valuePieces quoted (piecesText ps))
    else pure (plainPieces p name quoted)
  | .require orEmpty word =>
    if isMissing orEmpty value then do
      let ps ← d.pieces word
      let text := piecesText ps
      giveUp (name ++ ": " ++
        if !text.isEmpty then text
        else if orEmpty then "parameter not set or null" else "parameter not set")
    else pure (plainPieces p name quoted)
  | .malformed => giveUp "Bad substitution"
  | .dropFront longest word => do
    let ps ← d.pieces word
    let text := Pattern.dropFront longest (Pattern.atoms (joinPieces ps)) (value.getD "").toList
    pure (valuePieces quoted (String.ofList text))
  | .dropBack longest word => do
    let ps ← d.pieces word
    let text := Pattern.dropBack longest (Pattern.atoms (joinPieces ps)) (value.getD "").toList
    pure (valuePieces quoted (String.ofList text))

def dropLineEnds (bytes : Bytes) : Bytes :=
  ((bytes.filter (· ≠ 0)).reverse.dropWhile (· = 10)).reverse

-- The output of a command, without the newlines at its end.
def outputOf (d : Deeper) (body : Command) : Act String := do
  let number ← freshNumber
  let ending ← inChild do
    setEndpoint 1 (some (.buffer number))
    modifyProcess fun p => { p with guards := 0 }
    spend copyCost
    d.run true body
  report ending
  let p ← process
  let closed ← closedAt (.buffer number) p.clock
  waitUntil closed
  let w ← world
  let bytes := (bufferContent w number).flatMap (·.bytes)
  dropBuffer number
  modifyProcess fun p => { p with substituted := some ending.status }
  pure (Text.Utf8.decodeStringLossy (dropLineEnds bytes))

def expandArithmetic (d : Deeper) (expression : Word) : Act String := do
  let ps ← d.pieces expression
  let p ← process
  let text := piecesText ps
  let vars := p.bindings.filterMap fun v => v.value.map (v.name, ·)
  match Arithmetic.evaluate vars text.toList with
  | .error fault => giveUp (fault.message text)
  | .ok (n, changed) => do
    forEach (fun (name, value) =>
      if lookup p name = some value then pure () else assign name value) changed
    pure (toString n)

def expandPart (d : Deeper) : Part → Act (List Piece)
  | .text chars quoted =>
    let ms := Piece.marks (chars.map fun c => ⟨c, quoted⟩)
    pure (if quoted then [.present, ms] else [ms])
  | .parameter name change quoted => expandParameter d name change quoted
  | .command body quoted => do
    let text ← outputOf d body
    pure (valuePieces quoted text)
  | .arithmetic expression quoted => do
    let text ← expandArithmetic d expression
    pure (valuePieces quoted text)

-- A tilde at the front stands for the home directory, if a slash or the end follows it.
def expandHome (p : Process) (word : Word) : Word :=
  match word, lookup p "HOME" with
  | .text ('~' :: chars) false :: rest, some home =>
    if chars.head? = some '/' || (chars.isEmpty && rest.isEmpty) then
      .text home.toList true :: .text chars false :: rest
    else word
  | _, _ => word

def expandWord (d : Deeper) (word : Word) : Act (List Piece) := do
  let p ← process
  let ps ← collect (expandPart d) (expandHome p word)
  pure ps.flatten

-- The text of a word that is neither split nor looked up.
def wordText (d : Deeper) (word : Word) : Act String := do
  let ps ← expandWord d word
  pure (piecesText ps)

def wordFields (d : Deeper) (word : Word) : Act (List String) := do
  let ps ← expandWord d word
  let p ← process
  let t ← files
  pure ((splitFields (separators p) ps).flatMap (filesOf t !(p.has 'f')))

def allFields (d : Deeper) (words : List Word) : Act (List String) := do
  let fields ← collect (wordFields d) words
  pure fields.flatten

end CourseAudit.Shell
