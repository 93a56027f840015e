/-!
Moments in universal time, given in seconds since the beginning of 1970, and their date in the
Gregorian calendar, which is extended to all years.
-/
namespace CourseAudit

-- A moment; the nanoseconds count on from the second.
structure Moment where
  seconds : Int
  nanos : Nat
  deriving DecidableEq, Repr

structure Date where
  year : Int
  month : Nat
  day : Nat
  deriving DecidableEq, Repr

namespace Date

-- Days are counted in eras of 400 years that begin on the first of March, so that a leap day is the
-- last day of its year.
def ofDays (days : Int) : Date :=
  let shifted := days + 719468
  let era := shifted / 146097
  let dayOfEra := (shifted % 146097).toNat
  let yearOfEra :=
    (dayOfEra - dayOfEra / 1460 + dayOfEra / 36524 - dayOfEra / 146096) / 365
  let dayOfYear := dayOfEra - (365 * yearOfEra + yearOfEra / 4 - yearOfEra / 100)
  let monthFromMarch := (5 * dayOfYear + 2) / 153
  let day := dayOfYear - (153 * monthFromMarch + 2) / 5 + 1
  let month := if monthFromMarch < 10 then monthFromMarch + 3 else monthFromMarch - 9
  let year := (yearOfEra : Int) + era * 400 + if month ≤ 2 then 1 else 0
  ⟨year, month, day⟩

example : ofDays 0 = ⟨1970, 1, 1⟩ := by decide
example : ofDays 11016 = ⟨2000, 2, 29⟩ := by decide
example : ofDays (-719528) = ⟨0, 1, 1⟩ := by decide

end Date

namespace Moment

def digits (width n : Nat) : String :=
  let text := toString n
  String.ofList (List.replicate (width - text.length) '0') ++ text

-- At least four digits, with a sign outside of the years 0 to 9999.
def yearText (year : Int) : String :=
  if 0 ≤ year ∧ year ≤ 9999 then digits 4 year.toNat
  else (if year < 0 then "-" else "+") ++ digits 4 year.natAbs

def dateText (m : Moment) : String :=
  let d := Date.ofDays (m.seconds / 86400)
  yearText d.year ++ "-" ++ digits 2 d.month ++ "-" ++ digits 2 d.day

def timeText (m : Moment) : String :=
  let s := (m.seconds % 86400).toNat
  digits 2 (s / 3600) ++ ":" ++ digits 2 (s / 60 % 60) ++ ":"
    ++ digits 2 (s % 60 + m.nanos / 1000000000)

-- No places, three, six or nine: the fewest that are exact.
def fractionText (nanos : Nat) : String :=
  let nanos := nanos % 1000000000
  if nanos = 0 then ""
  else if nanos % 1000000 = 0 then "." ++ digits 3 (nanos / 1000000)
  else if nanos % 1000 = 0 then "." ++ digits 6 (nanos / 1000)
  else "." ++ digits 9 nanos

-- Date and time with a blank between them, to the second.
def plain (m : Moment) : String :=
  m.dateText ++ " " ++ m.timeText

-- The internet form of a date and time (RFC 3339).
def internet (m : Moment) : String :=
  m.dateText ++ "T" ++ m.timeText ++ fractionText m.nanos ++ "Z"

end Moment
end CourseAudit
