import CourseAudit.Decimal.Read
import CourseAudit.FileTree.Resolve
import CourseAudit.Text.Blank

/-!
The conditions of `test`: about texts, numbers and files.
-/
namespace CourseAudit.Shell.Condition

inductive Fault where
  | illegalNumber (text : String)
  | unexpectedOperator (text : String)
  | missingBracket
  | missingArgument (operator : String)
  | missingParenthesis
  deriving DecidableEq, Repr

namespace Fault

def message : Fault → String
  | .illegalNumber text => "Illegal number: " ++ text
  | .unexpectedOperator text => text ++ ": unexpected operator"
  | .missingBracket => "missing ]"
  | .missingArgument operator => operator ++ ": argument expected"
  | .missingParenthesis => "closing paren expected"

end Fault

abbrev Truth := Except Fault Bool

def number (text : String) : Except Fault Int :=
  match Decimal.integer? (Text.trim text.toList) with
  | some n => .ok n
  | none => .error (.illegalNumber text)

def isExecutable : Node → Bool
  | .file _ executable => executable
  | .directory _ => true
  | .link _ => false

def isNonEmpty : Node → Bool
  | .file content _ => !content.isEmpty
  | _ => true

def fileTest (t : FileTree) (path : String) (p : Node → Bool) : Bool :=
  match t.node true path with
  | .ok node => p node
  | .error _ => false

def unaryOperators : List String :=
  ["-r", "-w", "-x", "-e", "-f", "-d", "-c", "-b", "-p", "-u", "-g", "-k", "-s", "-t", "-z", "-n",
    "-h", "-O", "-G", "-L", "-S"]

def unary (t : FileTree) (operator operand : String) : Truth :=
  match operator with
  | "-n" => .ok (!operand.isEmpty)
  | "-z" => .ok operand.isEmpty
  | "-e" | "-r" | "-w" | "-O" | "-G" =>
    .ok (operand = "/dev/null" || fileTest t operand fun _ => true)
  | "-f" => .ok (t.isFile ⟨operand⟩)
  | "-d" => .ok (t.isDirectory ⟨operand⟩)
  | "-x" => .ok (fileTest t operand isExecutable)
  | "-s" => .ok (fileTest t operand isNonEmpty)
  | "-c" => .ok (operand = "/dev/null")
  | "-L" | "-h" =>
    match t.node false operand with
    | .ok (.link _) => .ok true
    | _ => .ok false
  -- Nothing is a terminal.
  | "-t" => do
    let _ ← number operand
    .ok false
  | _ => .ok false

def binaryOperators : List String :=
  ["=", "!=", "<", ">", "-eq", "-ne", "-ge", "-gt", "-le", "-lt", "-nt", "-ot", "-ef"]

def isSameFile (t : FileTree) (a b : String) : Bool :=
  match t.resolve true a, t.resolve true b with
  | .ok x, .ok y => x = y && fileTest t a fun _ => true
  | _, _ => false

def binary (t : FileTree) (operator a b : String) : Truth :=
  let compare (f : Int → Int → Bool) : Truth := do
    let x ← number a
    let y ← number b
    .ok (f x y)
  match operator with
  | "=" => .ok (a = b)
  | "!=" => .ok (a ≠ b)
  | "<" => .ok (a < b)
  | ">" => .ok (b < a)
  | "-eq" => compare fun x y => x = y
  | "-ne" => compare fun x y => x ≠ y
  | "-lt" => compare fun x y => x < y
  | "-le" => compare fun x y => x ≤ y
  | "-gt" => compare fun x y => y < x
  | "-ge" => compare fun x y => y ≤ x
  | "-ef" => .ok (isSameFile t a b)
  | _ => .ok false

-- What a word is where an operand or a connective may stand.
inductive Token where
  | ended
  | operand
  | unary (operator : String)
  | binary (operator : String)
  | negation
  | both
  | either
  | opening
  | closing
  deriving DecidableEq

-- A unary operator is an operand at the end, and in front of a binary operator that has a second
-- operand; so is an opening parenthesis at the end.
def isOperand : List String → Bool
  | [] => true
  | [_] => false
  | next :: _ :: _ => binaryOperators.contains next

def token : List String → Token
  | [] => .ended
  | word :: rest =>
    if unaryOperators.contains word then if isOperand rest then .operand else .unary word
    else if binaryOperators.contains word then .binary word
    else
      match word with
      | "!" => .negation
      | "-a" => .both
      | "-o" => .either
      | "(" => if rest.isEmpty then .operand else .opening
      | ")" => .closing
      | _ => .operand

-- A truth, and the words from the last one that was used.
abbrev Found := Except Fault (Bool × List String)

mutual

-- Conditions of which one has to hold. The token is that of the first word.
def anyOf (t : FileTree) : Nat → Token → List String → Found
  | 0, _, words => .ok (false, words)
  | fuel + 1, k, words => do
    let (first, words) ← allOf t fuel k words
    if token words.tail = .either then do
      let words := words.drop 2
      let (second, words) ← anyOf t fuel (token words) words
      .ok (first || second, words)
    else .ok (first, words)

def allOf (t : FileTree) : Nat → Token → List String → Found
  | 0, _, words => .ok (false, words)
  | fuel + 1, k, words => do
    let (first, words) ← single t fuel k words
    if token words.tail = .both then do
      let words := words.drop 2
      let (second, words) ← allOf t fuel (token words) words
      .ok (first && second, words)
    else .ok (first, words)

def single (t : FileTree) : Nat → Token → List String → Found
  | 0, _, words => .ok (false, words)
  | fuel + 1, k, words =>
    match k with
    | .ended => .ok (false, words)
    | .negation => do
      let next := token words.tail
      let (truth, words) ← single t fuel next (if next = .ended then words else words.tail)
      .ok (!truth, words)
    | .opening =>
      let words := words.tail
      if token words = .closing then .ok (false, words)
      else do
        let (truth, words) ← anyOf t fuel (token words) words
        if token words.tail = .closing then .ok (truth, words.tail)
        else .error .missingParenthesis
    | .unary operator =>
      match words.tail with
      | [] => .error (.missingArgument operator)
      | operand :: rest => do
        let truth ← unary t operator operand
        .ok (truth, operand :: rest)
    | _ =>
      match words.headD "", token words.tail, words.drop 2 with
      | _, .binary operator, [] => .error (.missingArgument operator)
      | a, .binary operator, b :: rest => do
        let truth ← binary t operator a b
        .ok (truth, b :: rest)
      | a, _, _ => .ok (!a.isEmpty, words)

end

-- With words left behind the condition, the last one used is taken for a wrong operator.
def whole (t : FileTree) (k : Token) (words : List String) : Truth := do
  let (truth, rest) ← anyOf t (4 * words.length + 4) k words
  match rest with
  | last :: _ :: _ => .error (.unexpectedOperator last)
  | _ => .ok truth

-- Whether a condition holds; without one, it does not. Three words with a binary operator between
-- are always compared, and parentheses around one or two words are dropped.
def holdsWithin (t : FileTree) : Nat → List String → Truth
  | 0, _ => .ok false
  | _ + 1, [] => .ok false
  | fuel + 1, words =>
    match words with
    | [_, operator, _] =>
      if binaryOperators.contains operator then whole t .operand words else shortened fuel words
    | [_, _, _, _] => shortened fuel words
    | words => whole t (token words) words
where
  shortened (fuel : Nat) (words : List String) : Truth :=
    if words.head? = some "(" && words.getLast? = some ")" then
      let inner := words.tail.dropLast
      whole t (token inner) inner
    else if words.head? = some "!" then do
      let truth ← holdsWithin t fuel words.tail
      .ok (!truth)
    else whole t (token words) words

def holds (t : FileTree) (args : List String) : Truth :=
  holdsWithin t 4 args

-- The same in brackets: the last argument closes them.
def holdsInBrackets (t : FileTree) (args : List String) : Truth :=
  match args.reverse with
  | "]" :: rest => holds t rest.reverse
  | _ => .error .missingBracket

end CourseAudit.Shell.Condition
