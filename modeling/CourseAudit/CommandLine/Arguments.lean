import CourseAudit.Decimal.Read

/-!
Reading the arguments of a command. A parameter with a value takes it from behind an equals sign or
from the next argument; switches can be put together behind one dash; all that follows two dashes is
plain.

A value that stands in an argument of its own is looked at only when the next parameter is read, so
an unknown argument behind it is noticed first.
-/
namespace CourseAudit.CommandLine

inductive Parameter where
  | full
  | root
  | config
  | compiler
  | verbose
  | skipBuild
  | report
  | threshold
  | json
  -- The one argument without a name.
  | pattern
  | help
  | version
  deriving DecidableEq, Repr

-- What a parameter takes.
inductive Content where
  | switch
  | text
  | path
  | number
  deriving DecidableEq, Repr

-- Why arguments make no command. The first two are wishes rather than faults.
inductive Refusal where
  | helpWanted
  | versionWanted
  | unknownArgument
  | missingArgument
  | missingValue
  | unexpectedValue
  | malformedValue
  | repeatedArgument
  deriving DecidableEq, Repr

namespace Refusal

def exitCode : Refusal → Nat
  | .helpWanted | .versionWanted => 0
  | _ => 2

end Refusal

namespace Parameter

def name : Parameter → String
  | .full => "full"
  | .root => "root"
  | .config => "config"
  | .compiler => "compiler"
  | .verbose => "verbose"
  | .skipBuild => "skip-build"
  | .report => "report"
  | .threshold => "threshold"
  | .json => "json"
  | .pattern => "pattern"
  | .help => "help"
  | .version => "version"

def letter? : Parameter → Option Char
  | .full => some 'f'
  | .verbose => some 'v'
  | .help => some 'h'
  | .version => some 'V'
  | _ => none

def content : Parameter → Content
  | .root | .config | .report => .path
  | .compiler | .pattern => .text
  | .threshold => .number
  | _ => .switch

-- Whether a text can be the value of the parameter.
def check (p : Parameter) (value : String) : Except Refusal Unit :=
  match p.content with
  | .path => if value.isEmpty then .error .missingValue else .ok ()
  | .number =>
    if (Decimal.float? value.toList).isNone then .error .malformedValue else .ok ()
  | .switch | .text => .ok ()

end Parameter

-- The parameters of a command.
structure Grammar where
  named : List Parameter
  takesPattern : Bool

-- The parameters that were read, with their values; a switch has an empty one.
abbrev Given := List (Parameter × String)

namespace Given

def value? (g : Given) (p : Parameter) : Option String :=
  (g.find? (·.1 = p)).map (·.2)

def has (g : Given) (p : Parameter) : Bool :=
  (g.value? p).isSome

end Given

namespace Grammar

def named? (g : Grammar) (name : String) : Option Parameter :=
  g.named.find? (·.name = name)

def letter? (g : Grammar) (letter : Char) : Option Parameter :=
  g.named.find? (·.letter? = some letter)

end Grammar

-- Between two arguments: a parameter may wait for its value, or with its value for acceptance.
structure Reading where
  given : Given
  pending : Option (Parameter × Option String)

namespace Reading

def start : Reading := ⟨[], none⟩

-- A parameter is given once, with a value it can have.
def accept (r : Reading) (p : Parameter) (value : String) : Except Refusal Reading := do
  if r.given.has p then .error .repeatedArgument
  else
    p.check value
    .ok { r with given := r.given ++ [(p, value)] }

def settle (r : Reading) : Except Refusal Reading :=
  match r.pending with
  | none => .ok r
  | some (_, none) => .error .missingValue
  | some (p, some value) => { r with pending := none }.accept p value

def switch (r : Reading) (p : Parameter) : Except Refusal Reading := do
  let r ← r.settle
  match p with
  | .help => .error .helpWanted
  | .version => .error .versionWanted
  | p => r.accept p ""

def switches (g : Grammar) : List Char → Reading → Except Refusal Reading
  | [], r => .ok r
  | letter :: rest, r =>
    match g.letter? letter with
    | none => .error .unknownArgument
    | some p => do
      let r ← r.switch p
      switches g rest r

-- A parameter by name; `attached` is what stands behind the equals sign.
def byName (g : Grammar) (r : Reading) (name : String) (attached : Option String) :
    Except Refusal Reading :=
  match g.named? name with
  | none => .error .unknownArgument
  | some p =>
    match p.content, attached with
    | .switch, none => r.switch p
    | .switch, some _ => .error .unexpectedValue
    | _, some value => do
      let r ← r.settle
      r.accept p value
    | _, none => do
      let r ← r.settle
      .ok { r with pending := some (p, none) }

def plain (g : Grammar) (r : Reading) (text : String) : Except Refusal Reading := do
  if g.takesPattern && !r.given.has .pattern then
    let r ← r.settle
    r.accept .pattern text
  else .error .unknownArgument

def splitAtEquals (text : List Char) : String × Option String :=
  let name := String.ofList (text.takeWhile (· ≠ '='))
  match text.dropWhile (· ≠ '=') with
  | _ :: value => (name, some (String.ofList value))
  | [] => (name, none)

-- An argument that is not one of the parameters is the value that is waited for, if any.
def valueOrPlain (g : Grammar) (r : Reading) (text : String) : Except Refusal Reading :=
  match r.pending with
  | some (p, none) => .ok { r with pending := some (p, some text) }
  | _ => r.plain g text

def argument (g : Grammar) (r : Reading) (text : String) : Except Refusal Reading :=
  match text.toList with
  | '-' :: '-' :: rest =>
    let (name, attached) := splitAtEquals rest
    r.byName g name attached
  | '-' :: letter :: rest => switches g (letter :: rest) r
  | _ => r.valueOrPlain g text

-- Reads arguments behind two dashes.
def plainArguments (g : Grammar) : List String → Reading → Except Refusal Reading
  | [], r => .ok r
  | text :: rest, r => do
    let r ← r.plain g text
    plainArguments g rest r

def arguments (g : Grammar) : List String → Reading → Except Refusal Reading
  | [], r => .ok r
  | text :: rest, r => do
    if text = "--" then plainArguments g rest r
    else
      let r ← r.argument g text
      arguments g rest r

end Reading

-- The parameters in a list of arguments, the name of the program not among them.
def Grammar.read (g : Grammar) (arguments : List String) : Except Refusal Given := do
  let r ← Reading.arguments g arguments .start
  let r ← r.settle
  if g.takesPattern && !r.given.has .pattern then .error .missingArgument else .ok r.given

end CourseAudit.CommandLine
