import CourseAudit.Shell.Expansion

/-!
Redirections: where the file descriptors of a command lead while it is carried out. A redirection
that fails is complained of, and the command is not carried out.
-/
namespace CourseAudit.Shell

open Act

-- Files that stand for descriptors, or for nothing.
def device? (p : Process) (path : String) : Option (Option Endpoint) :=
  match path with
  | "/dev/null" => some (some .nothing)
  | "/dev/stdin" => some (endpointOf p 0)
  | "/dev/stdout" => some (endpointOf p 1)
  | "/dev/stderr" => some (endpointOf p 2)
  | _ => none

def openFault (missing : String) : OsError → String
  | .notFound | .notDirectory => missing
  | e => e.brief

namespace Redirection

def openRead (descriptor : Nat) (path : String) : Act Bool := do
  let p ← process
  let t ← files
  match device? p path, t.node true path with
  | some endpoint, _ => do
    setEndpoint descriptor endpoint
    pure true
  | none, .ok (.file content _) => do
    let number ← addText content
    setEndpoint descriptor (some (.supply number))
    pure true
  | none, .ok _ => do
    setEndpoint descriptor (some .nothing)
    pure true
  | none, .error e => do
    complainHere ("cannot open " ++ path ++ ": " ++ openFault "No such file" e)
    pure false

-- The tree after a file has been opened for writing, and the place of the file.
def opened (t : FileTree) (path : String) (keep : Bool) :
    Except OsError (FileTree × FileTree.Place) := do
  let content := if keep then (t.read ⟨path⟩).toOption.getD [] else []
  let t ← t.write path content
  let place ← t.resolve true path
  .ok (t, place)

def openWrite (descriptor : Nat) (path : String) (keep : Bool) : Act Bool := do
  let p ← process
  let t ← files
  match device? p path, opened t path keep with
  | some endpoint, _ => do
    setEndpoint descriptor endpoint
    pure true
  | none, .ok (t, place) => do
    setFiles t
    setEndpoint descriptor (some (.file place))
    pure true
  | none, .error e => do
    complainHere ("cannot create " ++ path ++ ": " ++ openFault "Directory nonexistent" e)
    pure false

def duplicateEndpoint (descriptor : Nat) (source : String) : Act Bool := do
  let p ← process
  if source = "-" then do
    setEndpoint descriptor none
    pure true
  else
    match source.toNat? with
    | none => giveUp "Syntax error: Bad fd number"
    | some n =>
      match endpointOf p n with
      | some endpoint => do
        setEndpoint descriptor (some endpoint)
        pure true
      | none => do
        complainHere (source ++ ": Bad file descriptor")
        pure false

def apply (d : Deeper) : Redirection → Act Bool
  | .read descriptor path => do
    let path ← wordText d path
    openRead descriptor path
  | .write descriptor path keep => do
    let path ← wordText d path
    openWrite descriptor path keep
  | .update descriptor path => do
    let path ← wordText d path
    let done ← openWrite descriptor path true
    if done then openRead descriptor path else pure false
  | .duplicate descriptor source => do
    let source ← wordText d source
    duplicateEndpoint descriptor source
  | .supply descriptor text => do
    let text ← wordText d text
    let number ← addText (Text.Utf8.encodeString text)
    setEndpoint descriptor (some (.supply number))
    pure true

-- Stops at the first one that fails.
def applyAll (d : Deeper) : List Redirection → Act Bool
  | [] => pure true
  | r :: rest => do
    let done ← apply d r
    if done then applyAll d rest else pure false

-- Carries out a part with descriptors redirected, and puts them back. Without the redirections the
-- part is not carried out, and the status is 2.
def around (d : Deeper) (rs : List Redirection) (part : Act Unit) : Act Bool := do
  let before ← process
  let done ← applyAll d rs
  let r ← if done then result part else do
    setStatus 2
    pure (.ok ())
  modifyProcess fun p => { p with endpoints := before.endpoints }
  ofResult r
  pure done

end Redirection
end CourseAudit.Shell
