namespace Stencil.Calendar

/-- A day of the calendar. Months and days are counted from one. -/
structure Date where
  year : Int
  month : Nat
  day : Nat
  deriving DecidableEq, Repr

def isLeapYear (year : Int) : Bool :=
  year % 4 == 0 && (year % 100 != 0 || year % 400 == 0)

def daysInMonth (year : Int) (month : Nat) : Nat :=
  if month = 2 then (if isLeapYear year then 29 else 28)
  else if [4, 6, 9, 11].contains month then 30
  else 31

def daysBeforeYear (year : Int) : Int :=
  let last := year - 1
  365 * year + last / 4 - last / 100 + last / 400 + 1

def epochDay : Int :=
  daysBeforeYear 1970

def yearRange : Int × Int :=
  (-262143, 262142)

def inYearRange (year : Int) : Bool :=
  yearRange.1 ≤ year && year ≤ yearRange.2

namespace Date

def of? (year : Int) (month day : Nat) : Option Date :=
  if inYearRange year && 1 ≤ month && month ≤ 12 && 1 ≤ day && day ≤ daysInMonth year month then
    some ⟨year, month, day⟩
  else none

def ordinal (d : Date) : Nat :=
  (List.range' 1 (d.month - 1)).foldl (fun days month => days + daysInMonth d.year month) d.day

def dayNumber (d : Date) : Int :=
  daysBeforeYear d.year + d.ordinal - 1 - epochDay

/-- The month and the day in it of a number of days after the start of `month`. -/
def monthAndDay (year : Int) (month : Nat) : Nat → Nat → Nat × Nat
  | 0, days => (month, days + 1)
  | more + 1, days =>
    let length := daysInMonth year month
    if days < length then (month, days + 1) else monthAndDay year (month + 1) more (days - length)

/-- The year in which a day lies, counted in days before it from the year zero. The mean length of a
year gives it up to one. -/
def yearOfDay (days : Int) : Int :=
  let mean := 400 * days / 146097
  if daysBeforeYear (mean + 1) ≤ days then mean + 1
  else if daysBeforeYear mean ≤ days then mean
  else mean - 1

def ofDayNumber (n : Int) : Date :=
  let days := n + epochDay
  let year := yearOfDay days
  let (month, day) := monthAndDay year 1 11 (days - daysBeforeYear year).toNat
  ⟨year, month, day⟩

/-- The day of the week, from zero for Monday. -/
def weekday (d : Date) : Nat :=
  ((d.dayNumber + 3) % 7).toNat

def weekdayFromSunday (d : Date) : Nat :=
  (d.weekday + 1) % 7

/-- The number of the week in the year, where weeks begin on a Sunday and those before the first
Sunday are week zero. -/
def weekFromSunday (d : Date) : Nat :=
  (d.ordinal + 6 - d.weekdayFromSunday) / 7

/-- The number of the week in the year, where weeks begin on a Monday and those before the first
Monday are week zero. -/
def weekFromMonday (d : Date) : Nat :=
  (d.ordinal + 6 - d.weekday) / 7

/-- The year to which the week of the day belongs: that of its Thursday. -/
def weekYear (d : Date) : Int :=
  (ofDayNumber (d.dayNumber + 3 - d.weekday)).year

def weekOfYear (d : Date) : Nat :=
  ((ofDayNumber (d.dayNumber + 3 - d.weekday)).ordinal + 6) / 7

def quarter (d : Date) : Nat :=
  (d.month + 2) / 3

end Date

end Stencil.Calendar
