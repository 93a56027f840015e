import CourseAudit.FileTree.Basic

/-!
What a path leads to. Names are taken one by one; a link is replaced by its target, at most forty
times; two dots lead to the directory that really holds the present one.
-/
namespace CourseAudit.FileTree

-- A place in the tree, by the names that lead to it from the root.
abbrev Place := List String

def nameLimit : Nat := 255

def pathLimit : Nat := 4095

def linkLimit : Nat := 40

def pieces (path : String) : List String :=
  (Text.split '/' path.toList).map String.ofList

-- Goes on from a directory along a list of names. The place of a link is handed to `onLink`
-- together with the target and the names behind it.
def follow (root : Node) (last : Bool)
    (onLink : Place → String → List String → Except OsError Place) :
    Place → List String → Except OsError Place
  | place, [] => .ok place
  | place, name :: rest =>
    match root.get? place with
    | some (.directory entries) =>
      if name = "" || name = "." then follow root last onLink place rest
      else if name = ".." then follow root last onLink place.dropLast rest
      else if nameLimit < name.utf8ByteSize then .error .nameTooLong
      else
        match Node.find? name entries with
        | none => .error .notFound
        | some (.link target) =>
          if rest.isEmpty && !last then .ok (place ++ [name]) else onLink place target rest
        | some _ => follow root last onLink (place ++ [name]) rest
    | some _ => .error .notDirectory
    | none => .error .notFound

-- Where a relative or absolute text starts.
def startOf (base : Place) (path : String) : Place :=
  if path.toList.head? = some '/' then [] else base

def walk (root : Node) (last : Bool) : Nat → Place → List String → Except OsError Place
  | 0 => follow root last fun _ _ _ => .error .tooManyLinks
  | links + 1 => follow root last fun place target rest =>
    if target.isEmpty then .error .notFound
    else walk root last links (startOf place target) (pieces target ++ rest)

-- The place a path leads to; `last` tells whether a link at the very end is followed.
def resolve (t : FileTree) (last : Bool) (path : String) : Except OsError Place :=
  if path.isEmpty then .error .notFound
  else if path.toList.contains '\x00' then .error .nulInPath
  else if pathLimit < path.utf8ByteSize then .error .nameTooLong
  else walk t.root last linkLimit (startOf t.cwd path) (pieces path)

def node (t : FileTree) (last : Bool) (path : String) : Except OsError Node := do
  let place ← t.resolve last path
  match t.root.get? place with
  | some node => .ok node
  | none => .error .notFound

def isFile (t : FileTree) (p : Path) : Bool :=
  match t.node true p.text with
  | .ok (.file ..) => true
  | _ => false

def isDirectory (t : FileTree) (p : Path) : Bool :=
  match t.node true p.text with
  | .ok (.directory _) => true
  | _ => false

def read (t : FileTree) (p : Path) : Except OsError Text.Utf8.Bytes := do
  match ← t.node true p.text with
  | .file content _ => .ok content
  | .directory _ => .error .isDirectory
  | .link _ => .error .notFound

-- An entry of a directory.
structure Entry where
  name : String
  kind : Kind
  deriving DecidableEq, Repr

def entryLe (a b : Entry) : Bool :=
  a.name ≤ b.name

-- The entries of a directory in the byte order of their names.
def list (t : FileTree) (p : Path) : Except OsError (List Entry) := do
  match ← t.node true p.text with
  | .directory entries =>
    .ok ((entries.map fun (name, node) => ⟨name, node.kind⟩).mergeSort entryLe)
  | _ => .error .notDirectory

def enter (t : FileTree) (path : String) : Except OsError FileTree := do
  let place ← t.resolve true path
  match t.root.get? place with
  | some (.directory _) => .ok { t with cwd := place }
  | _ => .error .notDirectory

-- The absolute path of a place.
def pathOf (place : Place) : String :=
  match place with
  | [] => "/"
  | names => String.join (names.map ("/" ++ ·))

end CourseAudit.FileTree
