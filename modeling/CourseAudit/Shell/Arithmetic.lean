import CourseAudit.Value.Json5

/-!
Whole-number expressions. Numbers have 64 bits and wrap around; variables are read as numbers and
can be assigned to.
-/
namespace CourseAudit.Shell.Arithmetic

-- What is wrong with an expression: mostly that something else was expected.
inductive Fault where
  | expecting (what : String)
  | divisionByZero
  | notANumber (text : String)
  deriving DecidableEq, Repr

namespace Fault

def message (expression : String) : Fault → String
  | .expecting what =>
    "arithmetic expression: expecting " ++ what ++ ": \"" ++ expression ++ "\""
  | .divisionByZero => "arithmetic expression: division by zero: \"" ++ expression ++ "\""
  | .notANumber text => "Illegal number: " ++ text

end Fault

def malformed {α : Type} : Except Fault α := .error (.expecting "primary")

-- The variables an expression reads and sets.
abbrev Variables := List (String × String)

abbrev Result := Except Fault (Int × Variables × List Char)

def wrap (n : Int) : Int :=
  Int.bmod n (Nat.pow 2 64)

-- What a number is cut down to that does not fit.
def largest : Int := Int.pow 2 63 - 1

def skip (text : List Char) : List Char :=
  text.dropWhile fun c => c = ' ' || c = '\t' || c = '\n'

-- Digits in a base of at most sixteen, and what follows them.
def digits (base : Nat) : Nat → List Char → Nat × List Char
  | n, [] => (n, [])
  | n, c :: rest =>
    match Value.Json5.hexValue? c with
    | some d => if d < base then digits base (base * n + d) rest else (n, c :: rest)
    | none => (n, c :: rest)

def number (text : List Char) : Nat × List Char :=
  match text with
  | '0' :: 'x' :: rest => digits 16 0 rest
  | '0' :: 'X' :: rest => digits 16 0 rest
  | '0' :: rest => digits 8 0 rest
  | text => digits 10 0 text

-- The number that the value of a variable stands for; an empty value is zero.
def valueOf (vars : Variables) (name : String) : Except Fault Int :=
  let text := skip ((vars.find? (·.1 = name)).map (·.2) |>.getD "").toList
  let (negative, unsigned) := match text with
    | '-' :: rest => (true, rest)
    | '+' :: rest => (false, rest)
    | text => (false, text)
  let (n, rest) := number unsigned
  if (skip rest).isEmpty then
    .ok (if negative then max (-(n : Int)) (-largest - 1) else min n largest)
  else .error (.notANumber (String.ofList text))

def setValue (vars : Variables) (name : String) (n : Int) : Variables :=
  (name, toString n) :: vars.filter (·.1 ≠ name)

def ofBool (b : Bool) : Int := if b then 1 else 0

def bitwise (f : UInt64 → UInt64 → UInt64) (a b : Int) : Int :=
  wrap (f (UInt64.ofInt a) (UInt64.ofInt b)).toNat

def apply (operator : String) (a b : Int) : Except Fault Int :=
  match operator with
  | "*" => .ok (wrap (a * b))
  | "/" => if b = 0 then .error .divisionByZero else .ok (wrap (a.tdiv b))
  | "%" => if b = 0 then .error .divisionByZero else .ok (wrap (a.tmod b))
  | "+" => .ok (wrap (a + b))
  | "-" => .ok (wrap (a - b))
  | "<<" => .ok (wrap (a * Int.pow 2 (b % 64).toNat))
  | ">>" => .ok (wrap (a / Int.pow 2 (b % 64).toNat))
  | "<" => .ok (ofBool (a < b))
  | "<=" => .ok (ofBool (a ≤ b))
  | ">" => .ok (ofBool (b < a))
  | ">=" => .ok (ofBool (b ≤ a))
  | "==" => .ok (ofBool (a = b))
  | "!=" => .ok (ofBool (a ≠ b))
  | "&" => .ok (bitwise (· &&& ·) a b)
  | "^" => .ok (bitwise (· ^^^ ·) a b)
  | "|" => .ok (bitwise (· ||| ·) a b)
  | "&&" => .ok (ofBool (a ≠ 0 && b ≠ 0))
  | "||" => .ok (ofBool (a ≠ 0 || b ≠ 0))
  | _ => malformed

-- The operators between two operands, from those that bind most loosely. Where one begins another,
-- the longer comes first.
def levels : List (List String) := [
  ["||"],
  ["&&"],
  ["|"],
  ["^"],
  ["&"],
  ["==", "!="],
  ["<=", ">=", "<", ">"],
  ["<<", ">>"],
  ["+", "-"],
  ["*", "/", "%"]]

-- Longer operators, which a shorter one at the front of them is not.
def longerOperators : List String := ["||", "&&", "<<", ">>", "==", "<=", ">=", "!="]

def operatorAt? (operators : List String) (text : List Char) : Option (String × List Char) :=
  let long? := longerOperators.find? fun op => op.toList.isPrefixOf text
  match operators.find? fun op => op.toList.isPrefixOf text with
  | some op =>
    if op.length = 1 && long?.isSome then none
    else
      let rest := text.drop op.length
      -- An operator with an equals sign behind it assigns.
      if rest.head? = some '=' && !(["<", ">", "==", "!="].contains op) && op.length = 1 then none
      else some (op, rest)
  | none => none

def isNameStart (c : Char) : Bool := c.isAlpha || c = '_'

def isNamePart (c : Char) : Bool := c.isAlphanum || c = '_'

def assigning : List String := ["*", "/", "%", "+", "-", "<<", ">>", "&", "^", "|"]

-- The operator of an assignment; a plain one has none.
def assignment? (text : List Char) : Option (String × List Char) :=
  match text with
  | '=' :: '=' :: _ => none
  | '=' :: rest => some ("", rest)
  | text =>
    (assigning.find? fun op => (op.toList ++ ['=']).isPrefixOf text).map fun op =>
      (op, text.drop (op.length + 1))

mutual

-- Where `live` is not set, the value does not matter and nothing is set.
def expression (live : Bool) : Nat → Variables → List Char → Result
  | 0, _, _ => malformed
  | fuel + 1, vars, text => do
    let text := skip text
    let name := text.takeWhile isNamePart
    let behind := skip (text.dropWhile isNamePart)
    match text.head?.any isNameStart, assignment? behind with
    | true, some (op, rest) => do
      let (value, vars, rest) ← expression live fuel vars rest
      if live then do
        let name := String.ofList name
        let value ←
          if op.isEmpty then .ok value
          else do
            let old ← valueOf vars name
            apply op old value
        .ok (value, setValue vars name value, rest)
      else .ok (value, vars, rest)
    | _, _ => do
      let (condition, vars, rest) ← binary live fuel levels vars text
      match skip rest with
      | '?' :: rest => do
        let (first, vars, rest) ← expression (live && condition ≠ 0) fuel vars rest
        match skip rest with
        | ':' :: rest => do
          let (second, vars, rest) ← expression (live && condition = 0) fuel vars rest
          .ok (if condition ≠ 0 then first else second, vars, rest)
        | _ => .error (.expecting "':'")
      | rest => .ok (condition, vars, rest)

def binary (live : Bool) : Nat → List (List String) → Variables → List Char → Result
  | 0, _, _, _ => malformed
  | fuel + 1, [], vars, text => unary live fuel vars text
  | fuel + 1, operators :: tighter, vars, text => do
    let (first, vars, rest) ← binary live fuel tighter vars text
    more live fuel operators tighter first vars rest

def more (live : Bool) : Nat → List String → List (List String) → Int → Variables → List Char →
    Result
  | 0, _, _, _, _, _ => malformed
  | fuel + 1, operators, tighter, first, vars, text => do
    let text := skip text
    match operatorAt? operators text with
    | none => .ok (first, vars, text)
    | some (op, rest) => do
      let decided := (op = "&&" && first = 0) || (op = "||" && first ≠ 0)
      let (second, vars, rest) ← binary (live && !decided) fuel tighter vars rest
      let value ← if live then apply op first second else .ok second
      more live fuel operators tighter value vars rest

def unary (live : Bool) : Nat → Variables → List Char → Result
  | 0, _, _ => malformed
  | fuel + 1, vars, text =>
    match skip text with
    | '-' :: rest => do
      let (n, vars, rest) ← unary live fuel vars rest
      .ok (wrap (-n), vars, rest)
    | '+' :: rest => unary live fuel vars rest
    | '!' :: rest => do
      let (n, vars, rest) ← unary live fuel vars rest
      .ok (ofBool (n = 0), vars, rest)
    | '~' :: rest => do
      let (n, vars, rest) ← unary live fuel vars rest
      .ok (-n - 1, vars, rest)
    | '(' :: rest => do
      let (n, vars, rest) ← expression live fuel vars rest
      match skip rest with
      | ')' :: rest => .ok (n, vars, rest)
      | _ => .error (.expecting "')'")
    | c :: rest =>
      if isNameStart c then do
        let name := String.ofList ((c :: rest).takeWhile isNamePart)
        let n ← if live then valueOf vars name else .ok 0
        .ok (n, vars, (c :: rest).dropWhile isNamePart)
      else if c.isDigit then
        let (n, rest) := number (c :: rest)
        .ok (min n largest, vars, rest)
      else malformed
    | [] => malformed

end

-- The value of an expression, and the variables after it. An empty one is zero.
def evaluate (vars : Variables) (text : List Char) : Except Fault (Int × Variables) :=
  if (skip text).isEmpty then .ok (0, vars)
  else do
    let (n, vars, rest) ← expression true (16 * text.length + 64) vars text
    if (skip rest).isEmpty then .ok (n, vars) else .error (.expecting "EOF")

end CourseAudit.Shell.Arithmetic
