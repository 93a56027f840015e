import CourseAudit.Decimal.Binary

/-!
Numbers with a fixed count of decimal places. The exact binary value is rounded, so there is a tie
only where the value lies exactly between two decimals; then the even one is taken.
-/
namespace CourseAudit.Decimal

-- The value in units of the last place.
def unitsOf (places mantissa : Nat) (exponent : Int) : Nat :=
  if 0 ≤ exponent then mantissa * Nat.pow 2 exponent.toNat * Nat.pow 10 places
  else roundQuotient (mantissa * Nat.pow 10 places) (Nat.pow 2 (-exponent).toNat)

def padLeft (width : Nat) (text : List Char) : List Char :=
  List.replicate (width - text.length) '0' ++ text

def placesText (places units : Nat) : String :=
  let whole := toString (units / Nat.pow 10 places)
  if places = 0 then whole
  else
    whole ++ "." ++ String.ofList (padLeft places (toString (units % Nat.pow 10 places)).toList)

def fixed (places : Nat) (x : Float) : String :=
  let b := Binary.ofFloat x
  let sign := if b.negative then "-" else ""
  match b.magnitude with
  | .notANumber => "NaN"
  | .infinite => sign ++ "inf"
  | .finite mantissa exponent => sign ++ placesText places (unitsOf places mantissa exponent)

end CourseAudit.Decimal
