import CourseAudit.Course.Layout
import CourseAudit.Failure
import CourseAudit.FileTree.Resolve

/-!
Finding the patterns of a course, the course around a directory, and the pattern a user asks for.
-/
namespace CourseAudit.Course

def configFileName : String := "pattern-validator.json5"

-- The names of the real directories in a directory, in byte order; none if it cannot be read.
def subdirectories (t : FileTree) (p : Path) : List String :=
  match t.list p with
  | .ok entries => (entries.filter (·.kind = .directory)).map (·.name)
  | .error _ => []

def patternsOfModule (t : FileTree) (module : Path) : List Path :=
  ((subdirectories t module).filter isPatternName).map module.join

-- The patterns below a root, by module and then by name. A module that cannot be read has none.
def patternsBelow (t : FileTree) (root : Path) : List Path :=
  ((subdirectories t root).filter isModuleName).flatMap fun name =>
    patternsOfModule t (root.join name)

def findPatterns (t : FileTree) (root : Path) : Except AuditFailure (List Path) :=
  match t.list root with
  | .ok _ => .ok (patternsBelow t root)
  | .error e => .error (.directoryUnreadable root [e.message])

-- A course root holds a configuration file or at least one pattern.
def isRoot (t : FileTree) (p : Path) : Bool :=
  t.isFile (p.join configFileName) || !(patternsBelow t p).isEmpty

-- The nearest course root above a directory, itself included.
def findRoot (t : FileTree) (start : Path) : Except AuditFailure Path :=
  match start.ancestors.find? (isRoot t) with
  | some root => .ok root
  | none => .error .courseRootNotFound

-- The absolute path of the current directory.
def currentDirectory (t : FileTree) : Path :=
  ⟨FileTree.pathOf t.cwd⟩

-- A pattern by path, by directory name, or by pattern name, in this order.
def resolvePattern (t : FileTree) (root : Path) (query : String) : Except AuditFailure Path := do
  if t.isDirectory ⟨query⟩ then .ok ⟨query⟩
  else
    let patterns ← findPatterns t root
    match patterns.find? (·.fileName = query) <|> patterns.find? (patternName · = query) with
    | some p => .ok p
    | none => .error (.patternNotFound query root)

end CourseAudit.Course
