import CourseAudit.Path
import CourseAudit.Text.Utf8

/-!
A tree of files, as data: directories with named entries, files with their bytes, and symbolic
links. `Node.get?` looks a place up by the names on the way to it, and `Node.put` changes one place
(`get?_put`).
-/
namespace CourseAudit

open Text.Utf8 (Bytes)

inductive Node where
  | file (content : Bytes) (executable : Bool)
  | directory (entries : List (String × Node))
  | link (target : String)

-- Why an operation on files fails.
inductive OsError where
  | notFound
  | exists
  | notDirectory
  | isDirectory
  | invalidArgument
  | nameTooLong
  | notEmpty
  | tooManyLinks
  | noExecFormat
  | permissionDenied
  | nulInPath
  deriving DecidableEq, Repr

namespace OsError

def message : OsError → String
  | .notFound => "No such file or directory (os error 2)"
  | .noExecFormat => "Exec format error (os error 8)"
  | .permissionDenied => "Permission denied (os error 13)"
  | .exists => "File exists (os error 17)"
  | .notDirectory => "Not a directory (os error 20)"
  | .isDirectory => "Is a directory (os error 21)"
  | .invalidArgument => "Invalid argument (os error 22)"
  | .nameTooLong => "File name too long (os error 36)"
  | .notEmpty => "Directory not empty (os error 39)"
  | .tooManyLinks => "Too many levels of symbolic links (os error 40)"
  | .nulInPath => "file name contained an unexpected NUL byte"

-- The text without the number, as a shell shows it.
def brief : OsError → String
  | .notFound => "No such file or directory"
  | .noExecFormat => "Exec format error"
  | .permissionDenied => "Permission denied"
  | .exists => "File exists"
  | .notDirectory => "Not a directory"
  | .isDirectory => "Is a directory"
  | .invalidArgument => "Invalid argument"
  | .nameTooLong => "File name too long"
  | .notEmpty => "Directory not empty"
  | .tooManyLinks => "Too many levels of symbolic links"
  | .nulInPath => "No such file or directory"

end OsError

-- What an entry is by itself, a link not followed.
inductive Kind where
  | file
  | directory
  | link
  deriving DecidableEq, Repr

namespace Node

def empty : Node := .directory []

def kind : Node → Kind
  | .file .. => .file
  | .directory _ => .directory
  | .link _ => .link

-- The entry of a name, in a list of entries.
def find? (name : String) : List (String × Node) → Option Node
  | [] => none
  | (n, node) :: rest => if n = name then some node else find? name rest

def get? : Node → List String → Option Node
  | node, [] => some node
  | .directory entries, name :: rest =>
    match find? name entries with
    | some child => child.get? rest
    | none => none
  | _, _ :: _ => none
termination_by structural _ names => names

-- Sets or removes the entry of a name. A new entry comes last.
def setEntry (name : String) (node : Option Node) : List (String × Node) → List (String × Node)
  | [] =>
    match node with
    | some node => [(name, node)]
    | none => []
  | (n, old) :: rest =>
    if n = name then
      match node with
      | some node => (n, node) :: rest
      | none => rest
    else (n, old) :: setEntry name node rest

-- Sets or removes the node at a place. Directories on the way are made; a file or a link on the way
-- gives place to a directory.
def put : Node → List String → Option Node → Node
  | node, [], new => new.getD node
  | .directory entries, [name], new => .directory (setEntry name new entries)
  | .directory entries, name :: rest, new =>
    let child := (find? name entries).getD .empty
    .directory (setEntry name (some (child.put rest new)) entries)
  | _, name :: rest, new =>
    match rest with
    | [] => .directory (setEntry name new [])
    | _ => .directory [(name, Node.empty.put rest new)]
termination_by structural _ names => names

theorem find?_setEntry (name : String) (node : Node) (entries : List (String × Node)) :
    find? name (setEntry name (some node) entries) = some node := by
  induction entries with
  | nil => simp [setEntry, find?]
  | cons entry rest ih =>
    obtain ⟨n, old⟩ := entry
    by_cases h : n = name <;> simp [setEntry, find?, h, ih]

theorem get?_put (node new : Node) (names : List String) :
    (node.put names (some new)).get? names = some new := by
  induction names generalizing node with
  | nil => cases node <;> simp [put, get?]
  | cons name rest ih =>
    cases rest with
    | nil => cases node <;> simp [put, get?, find?_setEntry]
    | cons next rest =>
      cases node with
      | directory entries => simp [put, get?, find?_setEntry, ih]
      | file content executable => simp [put, get?, find?, ih]
      | link target => simp [put, get?, find?, ih]

end Node

-- A tree of files and the directory that relative paths start from.
structure FileTree where
  root : Node
  cwd : List String

end CourseAudit
