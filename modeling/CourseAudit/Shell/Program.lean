import CourseAudit.FileTree.Edit
import CourseAudit.Shell.Utility

/-!
Files as programs. The machine's own programs are marked files; a script names the program that
interprets it on its first line.
-/
namespace CourseAudit.Shell.Program

open Text.Utf8 (Bytes)
open FileTree (Place)

-- The programs of a machine: the small ones and those that start others.
def names : List String :=
  Utility.names ++ ["sh", "dash", "setsid", "env", "nohup"]

def mark : Bytes := 0x7F :: Text.Utf8.encodeString "program:"

def node (name : String) : Node :=
  .file (mark ++ Text.Utf8.encodeString name) true

-- What a file is as a program.
inductive Image where
  | builtIn (name : String)
  | interpreted (interpreter : String) (arg : Option String)
  | foreign
  deriving DecidableEq, Repr

def dropPrefix? : Bytes → Bytes → Option Bytes
  | [], rest => some rest
  | _ :: _, [] => none
  | a :: front, b :: rest => if a = b then dropPrefix? front rest else none

def isBlank (c : Char) : Bool := c = ' ' || c = '\t'

def image (content : Bytes) : Image :=
  match dropPrefix? mark content, content with
  | some name, _ => .builtIn (Text.Utf8.decodeStringLossy name)
  | none, 35 :: 33 :: rest =>
    let line := Text.Utf8.decodeLossy (rest.takeWhile (· ≠ 10))
    let line := line.dropWhile isBlank
    let interpreter := line.takeWhile (!isBlank ·)
    let arg := (line.dropWhile (!isBlank ·)).dropWhile isBlank
    let arg := (arg.reverse.dropWhile isBlank).reverse
    if interpreter.isEmpty then .foreign
    else .interpreted (String.ofList interpreter)
      (if arg.isEmpty then none else some (String.ofList arg))
  | none, _ => .foreign

-- A program with the arguments it is started with; `name` is what it was called by.
structure Launch where
  program : String
  name : String
  args : List String
  deriving DecidableEq, Repr

-- What comes of starting the file at a path. Interpreters may be interpreted in turn.
def launchWithin (t : FileTree) : Nat → String → List String → Except OsError Launch
  | 0, _, _ => .error .tooManyLinks
  | depth + 1, path, args => do
    match ← t.node true path with
    | .file content true =>
      match image content with
      | .builtIn program => .ok ⟨program, path, args⟩
      | .interpreted interpreter arg =>
        launchWithin t depth interpreter (arg.toList ++ path :: args)
      | .foreign => .error .noExecFormat
    | _ => .error .permissionDenied

def launch (t : FileTree) (path : String) (args : List String) : Except OsError Launch :=
  launchWithin t 5 path args

-- The directories of a search path. An empty one is the current directory.
def directories (searchPath : String) : List String :=
  Text.splitString ':' searchPath

-- The first file of a name on a search path that can be started. One that may not be started is
-- passed over, but remembered.
def search (t : FileTree) (name : String) (args : List String) (denied : Bool) :
    List String → Except OsError Launch
  | [] => .error (if denied then .permissionDenied else .notFound)
  | directory :: rest =>
    let path := ((⟨directory⟩ : Path).join name).text
    match launch t path args with
    | .ok l => .ok { l with name := if l.name = path then name else l.name }
    | .error .permissionDenied => search t name args true rest
    | .error .noExecFormat => .error .noExecFormat
    | .error _ => search t name args denied rest

def isPath (name : String) : Bool :=
  name.toList.contains '/'

-- Starts a program by path, or by name on the search path.
def find (t : FileTree) (searchPath : String) (name : String) (args : List String) :
    Except OsError Launch :=
  if name.isEmpty then .error .notFound
  else if isPath name then launch t name args
  else search t name args false (directories searchPath)

-- The path of the file that a name is found under, whether or not it can be started.
def locate? (t : FileTree) (searchPath : String) (name : String) : Option String :=
  if isPath name then some name
  else
    ((directories searchPath).map fun d => ((⟨d⟩ : Path).join name).text).find? fun path =>
      match t.node true path with
      | .ok (.file _ executable) => executable
      | _ => false

end CourseAudit.Shell.Program
