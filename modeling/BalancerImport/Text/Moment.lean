/-!
# Moments

How a moment is shown: the day of the Gregorian calendar and the time of the day, in universal time.

* `civilDate`: the date of a day that is counted from the beginning of 1970;
* `shownMoment`: a moment in milliseconds since then.
-/

namespace BalancerImport.Text

/-- A number with leading zeros up to a width. -/
def zeroPadded (width n : Nat) : String :=
  let digits := toString n
  String.ofList (List.replicate (width - digits.length) '0') ++ digits

/-- A day of the Gregorian calendar. -/
structure CivilDate where
  year : Int
  month : Nat
  day : Nat
  deriving DecidableEq, Repr

/-- The date of a day counted from the first of January 1970. Years are taken to begin in March, so
that a leap day is the last of its year; the calendar repeats every 146097 days. -/
def civilDate (days : Int) : CivilDate :=
  let shifted := days + 719468
  let era := shifted.fdiv 146097
  let dayOfEra := (shifted - era * 146097).toNat
  let yearOfEra := (dayOfEra - dayOfEra / 1460 + dayOfEra / 36524 - dayOfEra / 146096) / 365
  let dayOfYear := dayOfEra - (365 * yearOfEra + yearOfEra / 4 - yearOfEra / 100)
  let marchMonth := (5 * dayOfYear + 2) / 153
  let day := dayOfYear - (153 * marchMonth + 2) / 5 + 1
  let month := if marchMonth < 10 then marchMonth + 3 else marchMonth - 9
  { year := era * 400 + yearOfEra + (if month ≤ 2 then 1 else 0), month := month, day := day }

/-- A year, with a sign if it does not have four digits. -/
def shownYear (year : Int) : String :=
  if 0 ≤ year ∧ year ≤ 9999 then zeroPadded 4 year.toNat
  else (if year < 0 then "-" else "+") ++ zeroPadded 4 year.natAbs

/-- A moment, in milliseconds since the beginning of 1970. -/
def shownMoment (moment : Int) : String :=
  let days := moment.fdiv 86400000
  let rest := (moment - days * 86400000).toNat
  let date := civilDate days
  let fraction := if rest % 1000 = 0 then "" else "." ++ zeroPadded 3 (rest % 1000)
  s!"{shownYear date.year}-{zeroPadded 2 date.month}-{zeroPadded 2 date.day} " ++
    s!"{zeroPadded 2 (rest / 3600000)}:{zeroPadded 2 (rest / 60000 % 60)}:" ++
    s!"{zeroPadded 2 (rest / 1000 % 60)}{fraction} UTC"

end BalancerImport.Text
