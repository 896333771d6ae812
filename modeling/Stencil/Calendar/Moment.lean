import Stencil.Calendar.Date

namespace Stencil.Calendar

structure Moment where
  date : Date
  hour : Nat
  minute : Nat
  second : Nat
  /-- Billionths of a second. A leap second has a billion or more of them after second 59. -/
  nanosecond : Nat
  /-- How many minutes local time is ahead of universal time. -/
  offset : Int
  deriving DecidableEq, Repr

def nanosecondsPerSecond : Nat :=
  1000000000

def secondsPerDay : Nat :=
  86400

namespace Moment

def epoch : Moment :=
  ⟨⟨1970, 1, 1⟩, 0, 0, 0, 0, 0⟩

/-- The moment a number of seconds from the start of 1970 in universal time, if its year has dates. -/
def ofSeconds? (seconds : Int) : Option Moment :=
  let date := Date.ofDayNumber (seconds / secondsPerDay)
  let time := (seconds % secondsPerDay).toNat
  if inYearRange date.year then some ⟨date, time / 3600, time / 60 % 60, time % 60, 0, 0⟩ else none

def seconds (m : Moment) : Int :=
  m.date.dayNumber * secondsPerDay + (m.hour * 3600 + m.minute * 60 + m.second : Nat) - 60 * m.offset

/-- The second that a clock shows, which is 60 in a leap second. -/
def shownSecond (m : Moment) : Nat :=
  m.second + m.nanosecond / nanosecondsPerSecond

def shownNanosecond (m : Moment) : Nat :=
  m.nanosecond % nanosecondsPerSecond

def dialHour (m : Moment) : Nat :=
  if m.hour % 12 = 0 then 12 else m.hour % 12

def isAfternoon (m : Moment) : Bool :=
  12 ≤ m.hour

end Moment

end Stencil.Calendar
