import CourseAudit.Decimal.Binary

/-!
Numbers as digits and a power of ten. The exact value is rounded; of two decimals that are equally
near the even one is taken.
-/
namespace CourseAudit.Decimal

-- The value `units * 10 ^ (exponent - places)`, where `units` has one digit more than `places`, or
-- is zero.
structure Scientific where
  units : Nat
  exponent : Int
  deriving DecidableEq, Repr

-- The power of ten that a quotient reaches: with it the quotient is at least 1 and less than 10.
def reachedPower (num den : Nat) : Int :=
  let e : Int := (Nat.toDigits 10 num).length - (Nat.toDigits 10 den).length
  if den * Nat.pow 10 e.toNat ≤ num * Nat.pow 10 (-e).toNat then e else e - 1

def scientific (places mantissa : Nat) (exponent : Int) : Scientific :=
  if mantissa = 0 then ⟨0, 0⟩
  else
    let num := mantissa * Nat.pow 2 exponent.toNat
    let den := Nat.pow 2 (-exponent).toNat
    let e := reachedPower num den
    let shift : Int := places - e
    let units :=
      roundQuotient (num * Nat.pow 10 shift.toNat) (den * Nat.pow 10 (-shift).toNat)
    if units = Nat.pow 10 (places + 1) then ⟨units / 10, e + 1⟩ else ⟨units, e⟩

end CourseAudit.Decimal
