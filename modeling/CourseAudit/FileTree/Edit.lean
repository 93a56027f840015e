import CourseAudit.FileTree.Resolve

/-!
Changing a tree: writing files, making directories and links, removing.
-/
namespace CourseAudit.FileTree

open Text.Utf8 (Bytes)

-- The directory that is to hold a path, and the name in it. A link at the end is followed, so that
-- writing through a link writes its target.
def parentOf (t : FileTree) : Nat → String → Except OsError (Place × String)
  | 0, _ => .error .tooManyLinks
  | links + 1, path =>
    let names := (pieces path).filter (!·.isEmpty)
    match names.reverse with
    | [] => .error .isDirectory
    | name :: front =>
      if name = "." || name = ".." then .error .isDirectory
      else do
        let start := startOf t.cwd path
        let place ← walk t.root true linkLimit start front.reverse
        match t.root.get? place with
        | some (.directory entries) =>
          match Node.find? name entries with
          | some (.link target) =>
            if target.toList.head? = some '/' then parentOf t links target
            else parentOf t links (pathOf place ++ "/" ++ target)
          | _ => if nameLimit < name.utf8ByteSize then .error .nameTooLong else .ok (place, name)
        | _ => .error .notDirectory

def put (t : FileTree) (place : Place) (node : Option Node) : FileTree :=
  { t with root := t.root.put place node }

-- Writes a file, keeping its mode if it is there already.
def write (t : FileTree) (path : String) (content : Bytes) : Except OsError FileTree := do
  if path.isEmpty then .error .notFound
  else if pathLimit < path.utf8ByteSize then .error .nameTooLong
  else
    let (place, name) ← t.parentOf linkLimit path
    let here := place ++ [name]
    match t.root.get? here with
    | some (.directory _) => .error .isDirectory
    | some (.file _ executable) => .ok (t.put here (some (.file content executable)))
    | _ =>
      if path.toList.getLast? = some '/' then .error .isDirectory
      else .ok (t.put here (some (.file content false)))

def setExecutable (t : FileTree) (path : String) (executable : Bool) :
    Except OsError FileTree := do
  let place ← t.resolve true path
  match t.root.get? place with
  | some (.file content _) => .ok (t.put place (some (.file content executable)))
  | _ => .ok t

def makeDirectory (t : FileTree) (path : String) : Except OsError FileTree := do
  let (place, name) ← t.parentOf linkLimit path
  let here := place ++ [name]
  match t.root.get? here with
  | some _ => .error .exists
  | none => .ok (t.put here (some .empty))

-- Makes a directory and all that are missing above it, from the root on.
def makeDirectoriesFrom (t : FileTree) : List Path → Except OsError FileTree
  | [] => .ok t
  | p :: rest =>
    if p.text.isEmpty || t.isDirectory p then makeDirectoriesFrom t rest
    else
      match t.makeDirectory p.text with
      | .ok t => makeDirectoriesFrom t rest
      | .error e => .error e

def makeDirectories (t : FileTree) (p : Path) : Except OsError FileTree :=
  t.makeDirectoriesFrom p.ancestors.reverse

def remove (t : FileTree) (path : String) : Except OsError FileTree := do
  let place ← t.resolve false path
  .ok (t.put place none)

-- Puts a node at an absolute or relative path by its text alone, making directories on the way.
def plant (t : FileTree) (path : String) (node : Node) : FileTree :=
  let names := (pieces path).filter fun n => !(n.isEmpty || n = ".")
  t.put (startOf t.cwd path ++ names) (some node)

end CourseAudit.FileTree
