import PortfolioShell.Time.Civil

/-!
# Instants

A point in time is a count of seconds from the start of 1970 in universal time, and nanoseconds
within the second. During a leap second the count of seconds stands still and the nanoseconds go
on past a thousand million. A clock is what it shows: nothing says that it goes on evenly, or on at
all.
-/
namespace PortfolioShell.Time

/-- Seconds from the start of 1970, and nanoseconds. -/
structure Instant where
  seconds : Int
  nanos : Nat
deriving DecidableEq, Repr

/-- An instant as seen at an offset from universal time, in seconds to the east. -/
structure LocalTime where
  instant : Instant
  offset : Int
deriving DecidableEq, Repr

/-- The first and the last year of the calendar. -/
def firstYear : Int := -262143
def lastYear : Int := 262142

/-- Whether a year is on the calendar. -/
def yearInRange (year : Int) : Bool := firstYear ≤ year && year ≤ lastYear

/-- Seconds of a day. -/
def secondsPerDay : Int := 86400

namespace Instant

/-- The earlier of two instants comes first. -/
def compare (a b : Instant) : Ordering :=
  (Ord.compare a.seconds b.seconds).then (Ord.compare a.nanos b.nanos)

/-- The instant so many nanoseconds later. -/
def later (t : Instant) (nanos : Nat) : Instant :=
  ⟨t.seconds + (t.nanos + nanos) / 1000000000, (t.nanos + nanos) % 1000000000⟩

/-- The date in universal time. -/
def date (t : Instant) : CivilDate := .ofDays (t.seconds / secondsPerDay)

/-- Whether the date in universal time is on the calendar. -/
def inRange (t : Instant) : Bool := yearInRange t.date.year

end Instant

/-- A clock: the instants it shows to one look after the other, and how often it was looked at. -/
structure Clock where
  reading : Nat → Instant
  looks : Nat

namespace Clock

/-- What the clock shows to the next look. -/
def now (clock : Clock) : Instant := clock.reading clock.looks

/-- The clock after another look. -/
def next (clock : Clock) : Clock := { clock with looks := clock.looks + 1 }

/-- A clock that shows every look another nanosecond. -/
def ticking (start : Instant) : Clock := ⟨start.later, 0⟩

/-- Where a clock is asked for, an instant stands for one that begins there. -/
instance : Coe Instant Clock := ⟨ticking⟩

end Clock

/-- Whether an offset is less than a day. -/
def offsetInRange (offset : Int) : Bool := -secondsPerDay < offset && offset < secondsPerDay

end PortfolioShell.Time
