/-!
# Outbox.Time.Date — the date of a message

The `Date` field in the form of RFC 5322, always in UTC.
-/

namespace Outbox.Date

/-- A day of the Gregorian calendar. -/
structure Day where
  year : Nat
  month : Nat
  day : Nat
deriving DecidableEq

/-- The day a number of days after 1 January 1970. Years are counted from March,
so that a leap day ends one; 400 such years are one era. -/
def Day.ofUnix (days : Nat) : Day :=
  let z := days + 719468
  let era := z / 146097
  let dayOfEra := z % 146097
  let yearOfEra := (dayOfEra - dayOfEra / 1460 + dayOfEra / 36524 - dayOfEra / 146096) / 365
  let dayOfYear := dayOfEra - (365 * yearOfEra + yearOfEra / 4 - yearOfEra / 100)
  let shifted := (5 * dayOfYear + 2) / 153
  let month := if shifted < 10 then shifted + 3 else shifted - 9
  { year := yearOfEra + era * 400 + (if month ≤ 2 then 1 else 0)
    month
    day := dayOfYear - (153 * shifted + 2) / 5 + 1 }

/-- The names of the days of the week, from the day 1 January 1970 was. -/
def weekdays : List String := ["Thu", "Fri", "Sat", "Sun", "Mon", "Tue", "Wed"]

/-- The names of the months. -/
def months : List String :=
  ["Jan", "Feb", "Mar", "Apr", "May", "Jun", "Jul", "Aug", "Sep", "Oct", "Nov", "Dec"]

/-- A number in at least two digits. -/
def twoDigits (n : Nat) : String := if n < 10 then "0" ++ n.repr else n.repr

/-- The date of a number of seconds after the start of 1970. -/
def render (seconds : Nat) : String :=
  let days := seconds / 86400
  let rest := seconds % 86400
  let day := Day.ofUnix days
  weekdays.getD (days % 7) "" ++ ", " ++ day.day.repr ++ " " ++ months.getD (day.month - 1) ""
    ++ " " ++ day.year.repr ++ " " ++ twoDigits (rest / 3600) ++ ":" ++ twoDigits (rest / 60 % 60)
    ++ ":" ++ twoDigits (rest % 60) ++ " +0000"

end Outbox.Date
