import CourseAudit.Text.Search

/-!
Reading decimal numbers. The nearest floating-point number is taken.
-/
namespace CourseAudit.Decimal

def digitsValue (digits : List Char) : Nat :=
  digits.foldl (fun n c => 10 * n + (c.toNat - '0'.toNat)) 0

-- Digits up to the first other character, and what follows them.
def takeDigits (text : List Char) : List Char × List Char :=
  (text.takeWhile Char.isDigit, text.dropWhile Char.isDigit)

-- A signed decimal of digits; a plus sign is allowed and at least one digit has to follow.
def integer? (text : List Char) : Option Int :=
  let (negative, text) := match text with
    | '-' :: rest => (true, rest)
    | '+' :: rest => (false, rest)
    | text => (false, text)
  if text.isEmpty || !text.all Char.isDigit then none
  else some (if negative then -(digitsValue text : Int) else digitsValue text)

-- The digits of a number without its exponent: those before the point and those after it.
structure Significand where
  whole : List Char
  places : List Char

-- `10 ^ exponent` times the digits. A huge exponent is cut where the outcome no longer depends on
-- it: the first digit other than zero decides.
def scaled (s : Significand) (exponent : Int) : Float :=
  let significant := (s.whole ++ s.places).dropWhile (· = '0')
  let digits := digitsValue significant
  if digits = 0 then 0.0
  else
    let power := exponent - s.places.length
    let size : Int := significant.length
    if 400 < power + size then 1.0 / 0.0
    else if power + size < -400 then 0.0
    else Float.ofScientific digits (power < 0) power.natAbs

def exponent? (text : List Char) : Option Int :=
  match text with
  | [] => some 0
  | c :: rest => if c = 'e' || c = 'E' then integer? rest else none

-- Digits with an optional point and exponent. There is a digit before or after the point.
def unsigned? (text : List Char) : Option Float :=
  let (whole, rest) := takeDigits text
  let (places, rest) := match rest with
    | '.' :: rest => takeDigits rest
    | rest => ([], rest)
  if whole.isEmpty && places.isEmpty then none
  else (exponent? rest).map (scaled ⟨whole, places⟩)

-- A number as a command line gives it; the names of infinity and of no number count in any case.
def float? (text : List Char) : Option Float :=
  let (negative, text) := match text with
    | '-' :: rest => (true, rest)
    | '+' :: rest => (false, rest)
    | text => (false, text)
  let name := String.ofList (text.map Char.toLower)
  let value :=
    if name = "inf" || name = "infinity" then some (1.0 / 0.0)
    else if name = "nan" then some (0.0 / 0.0)
    else unsigned? text
  value.map fun x => if negative then -x else x

end CourseAudit.Decimal
