import CourseAudit.Decimal.Shortest
import CourseAudit.Value.Basic

/-!
Writing JSON with two blanks of indentation a level. Floating-point numbers have the fewest digits
that read back; what is no number is null.
-/
namespace CourseAudit.Value.Json

def hexDigit (n : Nat) : Char :=
  if n < 10 then Char.ofNat ('0'.toNat + n) else Char.ofNat ('a'.toNat + n - 10)

-- Only quotes, backslashes and control characters are escaped.
def escapeChar (c : Char) : List Char :=
  match c with
  | '"' => ['\\', '"']
  | '\\' => ['\\', '\\']
  | '\x08' => ['\\', 'b']
  | '\x0C' => ['\\', 'f']
  | '\n' => ['\\', 'n']
  | '\r' => ['\\', 'r']
  | '\t' => ['\\', 't']
  | c =>
    if c.toNat < 0x20 then
      ['\\', 'u', '0', '0', hexDigit (c.toNat / 16), hexDigit (c.toNat % 16)]
    else [c]

def quoted (s : String) : String :=
  "\"" ++ String.ofList (s.toList.flatMap escapeChar) ++ "\""

def indent (depth : Nat) : String :=
  String.ofList (List.replicate (2 * depth) ' ')

mutual

def pretty (depth : Nat) : Value → String
  | .null => "null"
  | .bool b => if b then "true" else "false"
  | .integer n => toString n
  | .float x => (Decimal.shortest? x).getD "null"
  | .string s => quoted s
  | .array [] => "[]"
  | .array (item :: items) =>
    "[\n" ++ indent (depth + 1) ++ pretty (depth + 1) item ++ prettyItems (depth + 1) items
      ++ "\n" ++ indent depth ++ "]"
  | .object [] => "\x7b\x7d"
  | .object ((key, value) :: fields) =>
    "\x7b\n" ++ indent (depth + 1) ++ quoted key ++ ": " ++ pretty (depth + 1) value
      ++ prettyFields (depth + 1) fields ++ "\n" ++ indent depth ++ "\x7d"

def prettyItems (depth : Nat) : List Value → String
  | [] => ""
  | item :: items => ",\n" ++ indent depth ++ pretty depth item ++ prettyItems depth items

def prettyFields (depth : Nat) : List (String × Value) → String
  | [] => ""
  | (key, value) :: fields =>
    ",\n" ++ indent depth ++ quoted key ++ ": " ++ pretty depth value ++ prettyFields depth fields

end

mutual

-- The same without any blanks.
def compact : Value → String
  | .null => "null"
  | .bool b => if b then "true" else "false"
  | .integer n => toString n
  | .float x => (Decimal.shortest? x).getD "null"
  | .string s => quoted s
  | .array [] => "[]"
  | .array (item :: items) => "[" ++ compact item ++ compactItems items ++ "]"
  | .object [] => "\x7b\x7d"
  | .object ((key, value) :: fields) =>
    "\x7b" ++ quoted key ++ ":" ++ compact value ++ compactFields fields ++ "\x7d"

def compactItems : List Value → String
  | [] => ""
  | item :: items => "," ++ compact item ++ compactItems items

def compactFields : List (String × Value) → String
  | [] => ""
  | (key, value) :: fields => "," ++ quoted key ++ ":" ++ compact value ++ compactFields fields

end

end CourseAudit.Value.Json
