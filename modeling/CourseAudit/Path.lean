import CourseAudit.Text.Split

/-!
Paths as texts. A path is kept as it was written; its components are read off the text. Slashes that
repeat or end a path count once, and a dot counts only at the front of a relative path.
-/
namespace CourseAudit

structure Path where
  text : String
  deriving DecidableEq, Repr

namespace Path

inductive Component where
  | root
  | here
  | up
  | name (n : String)
  deriving DecidableEq, Repr

instance : Inhabited Path := ⟨⟨""⟩⟩

def isAbsolute (p : Path) : Bool :=
  p.text.toList.head? = some '/'

-- What a piece between two slashes stands for; `first` tells that nothing is before it.
def component? (first : Bool) (piece : List Char) : Option Component :=
  if piece.isEmpty then none
  else if piece = ['.'] then if first then some .here else none
  else if piece = ['.', '.'] then some .up
  else some (.name (String.ofList piece))

-- Each component together with the length of the text up to its end.
def marks (first : Bool) (start : Nat) : List (List Char) → List (Component × Nat)
  | [] => []
  | piece :: rest =>
    let stop := start + piece.length
    let tail := marks false (stop + 1) rest
    match component? first piece with
    | some c => (c, stop) :: tail
    | none => tail

def markedComponents (p : Path) : List (Component × Nat) :=
  if p.isAbsolute then (.root, 1) :: marks false 0 (Text.split '/' p.text.toList)
  else marks true 0 (Text.split '/' p.text.toList)

def components (p : Path) : List Component :=
  p.markedComponents.map (·.1)

-- Two paths with the same components are one path.
def same (p q : Path) : Bool :=
  p.components = q.components

-- The text up to the end of the component before the last; a lone component leaves nothing.
def parent? (p : Path) : Option Path :=
  match p.markedComponents.reverse with
  | [] | (.root, _) :: _ => none
  | [_] => some ⟨""⟩
  | _ :: (_, stop) :: _ => some ⟨String.ofList (p.text.toList.take stop)⟩

def fileName? (p : Path) : Option String :=
  match p.components.getLast? with
  | some (.name n) => some n
  | _ => none

def fileName (p : Path) : String :=
  p.fileName?.getD ""

-- A name without what follows its last dot; a dot at the front belongs to the name.
def stemOf (name : String) : String :=
  let chars := name.toList
  let behind := chars.reverse.takeWhile (· ≠ '.')
  let front := chars.take (chars.length - behind.length - 1)
  if behind.length = chars.length || front.isEmpty then name else String.ofList front

def stem (p : Path) : String :=
  stemOf p.fileName

-- A path below a directory. An absolute path stays as it is.
def join (p : Path) (below : String) : Path :=
  if below.toList.head? = some '/' then ⟨below⟩
  else if p.text.isEmpty || p.text.toList.getLast? = some '/' then ⟨p.text ++ below⟩
  else ⟨p.text ++ "/" ++ below⟩

-- The path itself, its parent, the parent of that, and so on.
def ancestorsWithin : Nat → Path → List Path
  | 0, p => [p]
  | n + 1, p =>
    match p.parent? with
    | some q => p :: ancestorsWithin n q
    | none => [p]

def ancestors (p : Path) : List Path :=
  ancestorsWithin p.components.length p

end Path
end CourseAudit
