import CourseAudit.Failure
import CourseAudit.FileTree.Resolve
import CourseAudit.Text.Search

/-!
The files of a pattern that are checked. The name of a source tells its role:

- vulnerable: `*_vulnerabilities.cpp`
- secure: `secure_*_alternatives.cpp`
- exploit: `*_exploits.cpp`, or any `.cpp` file in the directory `exploits`

The documentation is the best of `SECURITY_ANALYSIS.md`, `*SECURITY_POSTER.md` and `README.md`.
-/
namespace CourseAudit

inductive Role where
  | vulnerable
  | secure
  | exploit
  deriving DecidableEq, Repr

namespace Role

def all : List Role := [.vulnerable, .secure, .exploit]

def text : Role → String
  | .vulnerable => "vulnerable"
  | .secure => "secure"
  | .exploit => "exploit"

def naming : Role → String
  | .vulnerable => "*_vulnerabilities.cpp"
  | .secure => "secure_*_alternatives.cpp"
  | .exploit => "*_exploits.cpp or exploits/*.cpp"

def ofStem? (stem : List Char) : Option Role :=
  if "_vulnerabilities".toList.isSuffixOf stem then some .vulnerable
  else if "secure_".toList.isPrefixOf stem && "_alternatives".toList.isSuffixOf stem then
    some .secure
  else if "_exploits".toList.isSuffixOf stem then some .exploit
  else none

-- The role of a source that lies in the pattern directory itself.
def ofFileName? (name : String) : Option Role :=
  (Text.stripEnd? ".cpp".toList name.toList).bind ofStem?

end Role

structure Artifact where
  role : Role
  path : Path
  deriving DecidableEq, Repr

namespace Artifact

def fileName (a : Artifact) : String := a.path.fileName

def stem (a : Artifact) : String := a.path.stem

end Artifact

-- What is checked of one pattern: its sources, ordered by role, and its documentation.
structure Artifacts where
  sources : List Artifact
  documentation : Option Path
  deriving DecidableEq, Repr

namespace Artifacts

def ofRole (a : Artifacts) (role : Role) : List Artifact :=
  a.sources.filter (·.role = role)

def exploitsName : String := "exploits"

-- How good a file is as documentation; the lowest rank is the best.
def documentationRank? (name : String) : Option Nat :=
  if name = "SECURITY_ANALYSIS.md" then some 0
  else if "SECURITY_POSTER.md".toList.isSuffixOf name.toList then some 1
  else if name = "README.md" then some 2
  else none

-- The first file of the best rank.
def documentationOf (files : List String) : Option String :=
  [0, 1, 2].findSome? fun rank => files.find? (documentationRank? · = some rank)

def filesOf (entries : List FileTree.Entry) : List String :=
  (entries.filter (·.kind = .file)).map (·.name)

def topLevel? (directory : Path) (name : String) : Option Artifact :=
  (Role.ofFileName? name).map fun role => ⟨role, directory.join name⟩

def exploit? (directory : Path) (name : String) : Option Artifact :=
  if ".cpp".toList.isSuffixOf name.toList then some ⟨.exploit, directory.join name⟩ else none

-- The sources that one entry of the pattern directory leads to. Of all subdirectories only the one
-- for exploits is looked into, and it has to be readable.
def sourcesOf (t : FileTree) (directory : Path) (entry : FileTree.Entry) :
    Except AuditFailure (List Artifact) :=
  match entry.kind with
  | .file => .ok (topLevel? directory entry.name).toList
  | .link => .ok []
  | .directory =>
    if entry.name = exploitsName then
      let path := directory.join exploitsName
      match t.list path with
      | .ok entries => .ok ((filesOf entries).filterMap (exploit? path))
      | .error e =>
        .error (.directoryUnreadable path
          ["IO error for operation on " ++ path.text ++ ": " ++ e.message, e.message])
    else .ok []

-- The sources of all entries, in the order of the entries.
def collect (t : FileTree) (directory : Path) : List FileTree.Entry →
    Except AuditFailure (List Artifact)
  | [] => .ok []
  | entry :: rest => do
    let here ← sourcesOf t directory entry
    let behind ← collect t directory rest
    .ok (here ++ behind)

-- Sorts by role and keeps the order within a role.
def byRole (sources : List Artifact) : List Artifact :=
  Role.all.flatMap fun role => sources.filter (·.role = role)

theorem mem_byRole {sources : List Artifact} {a : Artifact} : a ∈ byRole sources ↔ a ∈ sources := by
  obtain ⟨role, path⟩ := a
  cases role <;> simp [byRole, Role.all]

def discover (t : FileTree) (directory : Path) : Except AuditFailure Artifacts :=
  match t.list directory with
  | .error e => .error (.directoryUnreadable directory [e.message])
  | .ok entries => do
    let sources ← collect t directory entries
    .ok
      { sources := byRole sources
        documentation := (documentationOf (filesOf entries)).map directory.join }

end Artifacts
end CourseAudit
