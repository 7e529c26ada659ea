import PortfolioShell.Text.Words
import PortfolioShell.Time.Instant

/-!
# Written dates

Three forms: the short date of listings (`3/14/2024`), the long local time that `date` prints
(`Thu Mar 14 2024 09:05:00 GMT+0200`) and the exact form of records
(`2024-03-14T07:05:00Z`).
-/
namespace PortfolioShell.Time

/-- A number with zeros in front up to a width. -/
def zeroPadded (width n : Nat) : String :=
  let digits := toString n
  String.ofList (List.replicate (width - digits.length) '0') ++ digits

/-- A year has at least four digits; before year 0 and after year 9999 it has a sign. -/
def yearText (year : Int) : String :=
  if year < 0 then "-" ++ zeroPadded 4 year.natAbs
  else if year > 9999 then "+" ++ zeroPadded 4 year.natAbs
  else zeroPadded 4 year.natAbs

/-- An offset to the nearest minute, as sign, hours and minutes. -/
def offsetText (offset : Int) : String :=
  let minutes := (offset.natAbs + 30) / 60
  (if offset < 0 then "-" else "+") ++ zeroPadded 2 (minutes / 60) ++ zeroPadded 2 (minutes % 60)

/-- Names of the days of the week, from Sunday. -/
def weekdayNames : List String := ["Sun", "Mon", "Tue", "Wed", "Thu", "Fri", "Sat"]

/-- Names of the months. -/
def monthNames : List String :=
  ["Jan", "Feb", "Mar", "Apr", "May", "Jun", "Jul", "Aug", "Sep", "Oct", "Nov", "Dec"]

/-- Hours, minutes and seconds of a second within its day; a leap second is the 60th. -/
def clockText (second : Nat) (leap : Bool) : String :=
  zeroPadded 2 (second / 3600) ++ ":" ++ zeroPadded 2 (second % 3600 / 60) ++ ":" ++
    zeroPadded 2 (second % 60 + if leap then 1 else 0)

namespace Instant

/-- Whether the instant lies within a leap second. -/
def isLeapSecond (t : Instant) : Bool := 1000000000 ≤ t.nanos

/-- Month, day and year in universal time, without padding of month and day. -/
def shortDate (t : Instant) : String :=
  s!"{t.date.month}/{t.date.day}/{yearText t.date.year}"

/-- The fraction of a second in three, six or nine digits, the fewest that are exact, or none. -/
def fractionText (t : Instant) : String :=
  let nanos := t.nanos % 1000000000
  if nanos = 0 then ""
  else if nanos % 1000000 = 0 then "." ++ zeroPadded 3 (nanos / 1000000)
  else if nanos % 1000 = 0 then "." ++ zeroPadded 6 (nanos / 1000)
  else "." ++ zeroPadded 9 nanos

/-- The exact form in universal time. -/
def exactText (t : Instant) : String :=
  yearText t.date.year ++ "-" ++ zeroPadded 2 t.date.month ++ "-" ++ zeroPadded 2 t.date.day ++
    "T" ++ clockText (t.seconds % secondsPerDay).toNat t.isLeapSecond ++ t.fractionText ++ "Z"

end Instant

/-- Weekday, month, day, year, time of day and offset. -/
def LocalTime.longText (t : LocalTime) : String :=
  let shown := t.instant.seconds + t.offset
  let days := shown / secondsPerDay
  let date := CivilDate.ofDays days
  Text.join " " [weekdayNames[weekday days]?.getD "", monthNames[date.month - 1]?.getD "",
    zeroPadded 2 date.day, yearText date.year,
    clockText (shown % secondsPerDay).toNat t.instant.isLeapSecond,
    "GMT" ++ offsetText t.offset]

end PortfolioShell.Time
