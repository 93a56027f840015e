import CourseAudit.CommandLine.Run
import CourseAudit.Machine

/-!
The command line. The first argument names the command, and the others are its own. The files that
the command may look at are read before it and the report is written after it; tools run on a
`Machine`.
-/
namespace CourseAudit.CommandLine

-- Modes are not to be had, so a file that names its interpreter counts as a program.
def isProgram (content : Text.Utf8.Bytes) : Bool :=
  content.take 2 = [35, 33]

def loadFile (e : IO.FS.DirEntry) : IO Node := do
  let content := (← IO.FS.readBinFile e.path).toList
  return .file content (isProgram content)

-- What is on the disk, down to a depth; directories further down count as empty, as does what
-- cannot be read.
def load (withContent : Bool) : Nat → IO.FS.DirEntry → IO Node
  | 0, _ => pure .empty
  | depth + 1, e =>
    tryCatch (do
      match (← e.path.symlinkMetadata).type with
      | .dir =>
        let entries := (← e.path.readDir).toList
        let nodes ← entries.mapM fun e => do return (e.fileName, ← load withContent depth e)
        return .directory nodes
      | .symlink => return .link (← IO.FS.realPath e.path).toString
      | _ => if withContent then loadFile e else return .file [] false)
    fun _ => pure .empty

def loadDepth : Nat := 12

-- A course root is known by its file names two levels down.
def surveyDepth : Nat := 3

def loadAt (withContent : Bool) (depth : Nat) (t : FileTree) (path : Path) : IO FileTree := do
  let base ← IO.currentDir
  return t.plant path.text (← load withContent depth ⟨base, path.text⟩)

-- The nearest course root above the current directory, if there is one.
def surveyRoot (t : FileTree) : List Path → IO (Option Path)
  | [] => return none
  | p :: rest => do
    let seen ← loadAt false surveyDepth t p
    if Course.isRoot seen p then return some p else surveyRoot t rest

def isOnDisk (text : String) : IO Bool := do
  let base ← IO.currentDir
  return !text.isEmpty && (← (base / text).pathExists)

-- The values that arguments may have.
def valuesIn (arguments : List String) : List String :=
  arguments.flatMap fun a => [a, String.ofList ((a.toList.dropWhile (· ≠ '=')).drop 1)]

-- The current directory, the course around it, and all that the arguments name.
def loadFiles (arguments : List String) : IO FileTree := do
  let base ← IO.currentDir
  let cwd := (FileTree.pieces base.toString).filter (!·.isEmpty)
  let empty : FileTree := ⟨.empty, cwd⟩
  let here := Course.currentDirectory empty
  let around ← surveyRoot empty here.ancestors
  let named ← (valuesIn arguments).filterM isOnDisk
  let paths := here :: around.toList ++ named.map Path.mk
  paths.foldlM (loadAt true loadDepth) empty

-- A file that has just been made tells the time.
def now : IO Moment :=
  IO.FS.withTempFile fun _ path => do
    let time := (← path.metadata).modified
    return ⟨time.sec, time.nsec.toNat⟩

def writeReport (path : Path) (text : String) : IO Unit := do
  let place := (← IO.currentDir) / path.text
  match place.parent with
  | some parent => IO.FS.createDirAll parent
  | none => pure ()
  IO.FS.writeFile place text

end CourseAudit.CommandLine

open CourseAudit CommandLine in
def main (args : List String) : IO UInt32 := do
  match args with
  | [] =>
    IO.eprintln ("Usage: " ++ PatternCommand.programName ++ " | " ++ CourseCommand.programName)
    return 2
  | program :: arguments =>
    let files ← loadFiles arguments
    let scratch : Path := ⟨"/tmp"⟩
    let files := if files.isDirectory scratch then files else files.plant scratch.text .empty
    let m := Machine.ofFiles files (← IO.getEnv "PATH") scratch
    let (finish, _, _) := runProgram program arguments m.files Machine.host (← now) (.initial m)
    IO.print finish.output
    match finish.report with
    | some (path, text) => writeReport path text
    | none => pure ()
    return finish.exitCode.toUInt32
