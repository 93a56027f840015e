import CourseAudit.Decimal.Read
import CourseAudit.Text.Blank
import CourseAudit.Unicode.Name
import CourseAudit.Value.Basic

/-!
Reading JSON5, the superset of JSON with comments, trailing commas, unquoted keys, single quotes and
more forms of numbers. A reader takes what it understands from the front of the text and returns the
rest; every value takes at least one character, so the length of the text bounds the depth.
-/
namespace CourseAudit.Value.Json5

def isKeyStart (c : Char) : Bool :=
  c = '_' || c = '$' || Unicode.letterTable.contains c.toNat

def isKeyPart (c : Char) : Bool :=
  isKeyStart c || c = '\u200C' || c = '\u200D' || Unicode.joinedTable.contains c.toNat

def isLineEnd (c : Char) : Bool :=
  c = '\n' || c = '\r' || c = '\u2028' || c = '\u2029'

def isSpace (c : Char) : Bool :=
  (Text.isBlank c && c ≠ '\u0085') || c = '\uFEFF'

-- Where the reader is between two tokens.
inductive Comment where
  | none
  | line
  | block

-- Passes over blanks and comments; a block comment has to be closed.
def skip : Comment → List Char → Option (List Char)
  | .block, [] => Option.none
  | _, [] => some []
  | .none, '/' :: '/' :: rest => skip .line rest
  | .none, '/' :: '*' :: rest => skip .block rest
  | .none, c :: rest => if isSpace c then skip .none rest else some (c :: rest)
  | .line, c :: rest => skip (if isLineEnd c then .none else .line) rest
  | .block, '*' :: '/' :: rest => skip .none rest
  | .block, _ :: rest => skip .block rest

def hexValue? (c : Char) : Option Nat :=
  if c.isDigit then some (c.toNat - '0'.toNat)
  else if 'a' ≤ c ∧ c ≤ 'f' then some (c.toNat - 'a'.toNat + 10)
  else if 'A' ≤ c ∧ c ≤ 'F' then some (c.toNat - 'A'.toNat + 10)
  else none

-- A given count of hexadecimal digits.
def hex? : Nat → Nat → List Char → Option (Nat × List Char)
  | 0, n, rest => some (n, rest)
  | k + 1, n, c :: rest => (hexValue? c).bind fun d => hex? k (16 * n + d) rest
  | _ + 1, _, [] => none

def scalar? (n : Nat) : Option Char :=
  if h : n.isValidChar then some (Char.ofNatAux n h) else none

-- The character behind `\u`. Two halves of a surrogate pair make one.
def unicodeEscape? (text : List Char) : Option (Char × List Char) := do
  let (n, rest) ← hex? 4 0 text
  if 0xD800 ≤ n ∧ n < 0xDC00 then
    match rest with
    | '\\' :: 'u' :: rest =>
      let (m, rest) ← hex? 4 0 rest
      if 0xDC00 ≤ m ∧ m < 0xE000 then
        let c ← scalar? (0x10000 + (n - 0xD800) * 0x400 + (m - 0xDC00))
        some (c, rest)
      else none
    | _ => none
  else
    let c ← scalar? n
    some (c, rest)

-- What a backslash and the text behind it stand for.
def escape? : List Char → Option (List Char × List Char)
  | [] => none
  | 'u' :: rest => (unicodeEscape? rest).map fun (c, rest) => ([c], rest)
  | 'x' :: rest => do
    let (n, rest) ← hex? 2 0 rest
    let c ← scalar? n
    some ([c], rest)
  | '\r' :: '\n' :: rest => some ([], rest)
  | c :: rest =>
    if isLineEnd c then some ([], rest)
    else
      match c with
      | 'b' => some (['\x08'], rest)
      | 'f' => some (['\x0C'], rest)
      | 'n' => some (['\n'], rest)
      | 'r' => some (['\r'], rest)
      | 't' => some (['\t'], rest)
      | 'v' => some (['\x0B'], rest)
      | '0' => if rest.head?.any Char.isDigit then none else some (['\x00'], rest)
      | c => if c.isDigit then none else some ([c], rest)

-- A string up to its closing quote; what was read waits in reverse.
def string? (quote : Char) : Nat → List Char → List Char → Option (String × List Char)
  | 0, _, _ => none
  | _ + 1, _, [] => none
  | fuel + 1, read, '\\' :: rest =>
    match escape? rest with
    | some (chars, rest) => string? quote fuel (chars.reverse ++ read) rest
    | none => none
  | fuel + 1, read, c :: rest =>
    if c = quote then some (String.ofList read.reverse, rest)
    else if c = '\n' || c = '\r' then none
    else string? quote fuel (c :: read) rest

def bareKey? (first : Bool) : Nat → List Char → List Char → Option (String × List Char)
  | 0, _, _ => none
  | fuel + 1, read, text =>
    let done : Option (String × List Char) :=
      if first then none else some (String.ofList read.reverse, text)
    match text with
    | '\\' :: 'u' :: rest =>
      match unicodeEscape? rest with
      | some (c, rest) =>
        if if first then isKeyStart c else isKeyPart c then bareKey? false fuel (c :: read) rest
        else none
      | none => none
    | c :: rest =>
      if if first then isKeyStart c else isKeyPart c then bareKey? false fuel (c :: read) rest
      else done
    | [] => done

def key? (text : List Char) : Option (String × List Char) :=
  match text with
  | '"' :: rest => string? '"' (rest.length + 1) [] rest
  | '\x27' :: rest => string? '\x27' (rest.length + 1) [] rest
  | text => bareKey? true (text.length + 1) [] text

def hexRun : Nat → Nat → List Char → Nat × Nat × List Char
  | count, n, [] => (count, n, [])
  | count, n, c :: rest =>
    match hexValue? c with
    | some d => hexRun (count + 1) (16 * n + d) rest
    | none => (count, n, c :: rest)

def floatValue (negative : Bool) (x : Float) : Value :=
  .float (if negative then -x else x)

-- The exponent of a number, if one follows.
def exponent? (text : List Char) : Option (Option Int × List Char) :=
  match text with
  | c :: rest =>
    if c = 'e' || c = 'E' then
      let (sign, rest) := match rest with
        | '+' :: rest => ([], rest)
        | '-' :: rest => (['-'], rest)
        | rest => ([], rest)
      let (digits, rest) := Decimal.takeDigits rest
      (Decimal.integer? (sign ++ digits)).map fun n => (some n, rest)
    else some (none, c :: rest)
  | [] => some (none, [])

-- A decimal number. A whole part of more than one digit does not begin with zero.
def decimal? (negative : Bool) (text : List Char) : Option (Value × List Char) :=
  let (whole, rest) := Decimal.takeDigits text
  if 1 < whole.length && whole.head? = some '0' then none
  else
    let (point, places, rest) := match rest with
      | '.' :: rest =>
        let (places, rest) := Decimal.takeDigits rest
        (true, places, rest)
      | rest => (false, [], rest)
    if whole.isEmpty && places.isEmpty then none
    else
      match exponent? rest with
      | none => none
      | some (exponent, rest) =>
        if point || exponent.isSome then
          some (floatValue negative (Decimal.scaled ⟨whole, places⟩ (exponent.getD 0)), rest)
        else
          let n := Decimal.digitsValue whole
          some (.integer (if negative then -(n : Int) else n), rest)

-- A hexadecimal number of at most 128 bits, or 127 behind a minus sign and the least number below.
def hexadecimal? (negative : Bool) (text : List Char) : Option (Value × List Char) :=
  let (count, n, rest) := hexRun 0 0 text
  if count = 0 then none
  else if negative then if n ≤ Nat.pow 2 127 then some (.integer (-(n : Int)), rest) else none
  else if n < Nat.pow 2 128 then some (.integer n, rest)
  else none

def number? (text : List Char) : Option (Value × List Char) :=
  let (negative, text) := match text with
    | '-' :: rest => (true, rest)
    | '+' :: rest => (false, rest)
    | text => (false, text)
  match text with
  | '0' :: 'x' :: rest => hexadecimal? negative rest
  | '0' :: 'X' :: rest => hexadecimal? negative rest
  | 'I' :: 'n' :: 'f' :: 'i' :: 'n' :: 'i' :: 't' :: 'y' :: rest =>
    some (floatValue negative (1.0 / 0.0), rest)
  | 'N' :: 'a' :: 'N' :: rest => some (floatValue negative (0.0 / 0.0), rest)
  | text => decimal? negative text

mutual

def value? : Nat → List Char → Option (Value × List Char)
  | 0, _ => none
  | fuel + 1, text =>
    match text with
    | '\x7b' :: rest => fields? fuel [] rest
    | '[' :: rest => items? fuel [] rest
    | '"' :: rest => (string? '"' (rest.length + 1) [] rest).map fun (s, rest) => (.string s, rest)
    | '\x27' :: rest =>
      (string? '\x27' (rest.length + 1) [] rest).map fun (s, rest) => (.string s, rest)
    | 'n' :: 'u' :: 'l' :: 'l' :: rest => some (.null, rest)
    | 't' :: 'r' :: 'u' :: 'e' :: rest => some (.bool true, rest)
    | 'f' :: 'a' :: 'l' :: 's' :: 'e' :: rest => some (.bool false, rest)
    | text => number? text

-- The items of an array up to its bracket; those read so far wait in reverse.
def items? : Nat → List Value → List Char → Option (Value × List Char)
  | 0, _, _ => none
  | fuel + 1, read, text =>
    match skip .none text with
    | none => none
    | some (']' :: rest) => some (.array read.reverse, rest)
    | some text =>
      match value? fuel text with
      | none => none
      | some (v, rest) =>
        match skip .none rest with
        | some (',' :: rest) => items? fuel (v :: read) rest
        | some (']' :: rest) => some (.array (v :: read).reverse, rest)
        | _ => none

def fields? : Nat → List (String × Value) → List Char → Option (Value × List Char)
  | 0, _, _ => none
  | fuel + 1, read, text =>
    match skip .none text with
    | none => none
    | some ('\x7d' :: rest) => some (.object read.reverse, rest)
    | some text =>
      match key? text with
      | none => none
      | some (k, rest) =>
        match skip .none rest with
        | some (':' :: rest) =>
          match (skip .none rest).bind (value? fuel) with
          | none => none
          | some (v, rest) =>
            match skip .none rest with
            | some (',' :: rest) => fields? fuel ((k, v) :: read) rest
            | some ('\x7d' :: rest) => some (.object ((k, v) :: read).reverse, rest)
            | _ => none
        | _ => none

end

-- The value a whole text stands for.
def parse? (text : String) : Option Value := do
  let chars ← skip .none text.toList
  let (v, rest) ← value? (chars.length + 1) chars
  let rest ← skip .none rest
  if rest.isEmpty then some v else none

end CourseAudit.Value.Json5
