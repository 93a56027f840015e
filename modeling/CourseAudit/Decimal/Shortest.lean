import CourseAudit.Decimal.Binary

/-!
The fewest decimal digits that read back as the same number. The reals that round to a number form
an interval around it, whose ends belong to it when the mantissa is even. For each count of digits
the two neighbours of the number on that decimal grid are tried; the first grid with a hit wins, and
of two hits the nearer one.
-/
namespace CourseAudit.Decimal

-- A positive rational number.
structure Ratio where
  num : Nat
  den : Nat

namespace Ratio

def ofDecimal (digits : Nat) (power : Int) : Ratio :=
  if 0 ≤ power then ⟨digits * Nat.pow 10 power.toNat, 1⟩ else ⟨digits, Nat.pow 10 (-power).toNat⟩

def ofBinary (mantissa : Nat) (exponent : Int) : Ratio :=
  if 0 ≤ exponent then ⟨mantissa * Nat.pow 2 exponent.toNat, 1⟩
  else ⟨mantissa, Nat.pow 2 (-exponent).toNat⟩

def lt (a b : Ratio) : Bool := a.num * b.den < b.num * a.den

def le (a b : Ratio) : Bool := a.num * b.den ≤ b.num * a.den

-- The distance of two numbers.
def distance (a b : Ratio) : Ratio :=
  ⟨max (a.num * b.den) (b.num * a.den) - min (a.num * b.den) (b.num * a.den), a.den * b.den⟩

end Ratio

-- The reals that round to a number, in units of a quarter of its last binary place.
structure Interval where
  low : Ratio
  value : Ratio
  high : Ratio
  closed : Bool

namespace Interval

-- Below a power of two the next number is only half as far away.
def ofBinary (mantissa : Nat) (exponent : Int) : Interval where
  low :=
    if mantissa = Nat.pow 2 52 ∧ exponent ≠ -1074 then .ofBinary (4 * mantissa - 1) (exponent - 2)
    else .ofBinary (4 * mantissa - 2) (exponent - 2)
  value := .ofBinary mantissa exponent
  high := .ofBinary (4 * mantissa + 2) (exponent - 2)
  closed := mantissa % 2 = 0

def contains (i : Interval) (r : Ratio) : Bool :=
  if i.closed then i.low.le r && r.le i.high else i.low.lt r && r.lt i.high

end Interval

-- The power of ten of the first digit of a positive number.
def leadingPower (value : Ratio) : Int :=
  let guess : Int := (toString value.num).length - (toString value.den).length
  if (Ratio.ofDecimal 1 guess).le value then guess else guess - 1

-- The neighbours of a number among the multiples of a power of ten.
def neighbours (value : Ratio) (power : Int) : Nat × Nat :=
  let floor :=
    if 0 ≤ power then value.num / (value.den * Nat.pow 10 power.toNat)
    else value.num * Nat.pow 10 (-power).toNat / value.den
  (floor, floor + 1)

def onGrid (i : Interval) (power : Int) : Option Nat :=
  let (low, high) := neighbours i.value power
  let lowValue := Ratio.ofDecimal low power
  let highValue := Ratio.ofDecimal high power
  match i.contains lowValue, i.contains highValue with
  | true, true =>
    let below := i.value.distance lowValue
    let above := i.value.distance highValue
    if below.lt above then some low
    else if above.lt below then some high
    else some (if low % 2 = 0 then low else high)
  | true, false => some low
  | false, true => some high
  | false, false => none

-- Tries grids from coarse to fine.
def firstGrid (i : Interval) : Nat → Int → Nat × Int
  | 0, power => (i.value.num / i.value.den, power)
  | tries + 1, power =>
    match onGrid i power with
    | some digits => (digits, power)
    | none => firstGrid i tries (power - 1)

-- Drops the zeros at the end of a digit string.
def dropZeros : Nat → Nat → Int → Nat × Int
  | 0, digits, power => (digits, power)
  | tries + 1, digits, power =>
    if digits ≠ 0 ∧ digits % 10 = 0 then dropZeros tries (digits / 10) (power + 1)
    else (digits, power)

-- The shortest digits of a positive number and the power of ten of the last one.
def shortestDigits (mantissa : Nat) (exponent : Int) : Nat × Int :=
  let i := Interval.ofBinary mantissa exponent
  let (digits, power) := firstGrid i 18 (leadingPower i.value)
  dropZeros 18 digits power

-- How a number with an exponent is laid out: as a plain decimal while the point stands near the
-- digits, and with a power of ten otherwise.
def layout (digits : List Char) (power : Int) : String :=
  let n : Int := digits.length
  let point := n + power
  if 0 ≤ power ∧ point ≤ 16 then
    String.ofList (digits ++ List.replicate power.toNat '0') ++ ".0"
  else if 0 < point ∧ point ≤ 16 then
    String.ofList (digits.take point.toNat) ++ "." ++ String.ofList (digits.drop point.toNat)
  else if -5 < point ∧ point ≤ 0 then
    "0." ++ String.ofList (List.replicate (-point).toNat '0' ++ digits)
  else
    let mark := "e" ++ toString (point - 1)
    match digits with
    | [d] => String.ofList [d] ++ mark
    | d :: rest => String.ofList [d] ++ "." ++ String.ofList rest ++ mark
    | [] => mark

-- The text of a number, `none` for those that no JSON number stands for.
def shortest? (x : Float) : Option String :=
  let b := Binary.ofFloat x
  let sign := if b.negative then "-" else ""
  match b.magnitude with
  | .notANumber | .infinite => none
  | .finite 0 _ => some (sign ++ "0.0")
  | .finite mantissa exponent =>
    let (digits, power) := shortestDigits mantissa exponent
    some (sign ++ layout (toString digits).toList power)

end CourseAudit.Decimal
