/-!
A binary floating-point number taken apart: what kind it is, its sign, and for a finite one the
exact value `mantissa * 2 ^ exponent`.
-/
namespace CourseAudit.Decimal

inductive Magnitude where
  | finite (mantissa : Nat) (exponent : Int)
  | infinite
  | notANumber
  deriving DecidableEq, Repr

structure Binary where
  negative : Bool
  magnitude : Magnitude
  deriving DecidableEq, Repr

namespace Binary

def ofBits (bits : UInt64) : Binary :=
  let n := bits.toNat
  let fraction : Nat := n % Nat.pow 2 52
  let biased : Nat := n / Nat.pow 2 52 % Nat.pow 2 11
  { negative := n / Nat.pow 2 63 = 1
    magnitude :=
      if biased = 2047 then if fraction = 0 then .infinite else .notANumber
      else if biased = 0 then .finite fraction (-1074)
      else .finite (fraction + Nat.pow 2 52) ((biased : Int) - 1075) }

def ofFloat (x : Float) : Binary :=
  ofBits x.toBits

end Binary

/-!
A quotient of natural numbers, rounded to the nearest one. A tie goes to the even neighbour.
-/

def roundQuotient (num den : Nat) : Nat :=
  let q := num / den
  let r := num % den
  if 2 * r < den then q
  else if den < 2 * r then q + 1
  else if q % 2 = 0 then q else q + 1

end CourseAudit.Decimal
