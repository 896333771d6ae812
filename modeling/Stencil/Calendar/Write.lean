import Stencil.Calendar.Pattern

namespace Stencil.Calendar

def monthNames : List String :=
  ["January", "February", "March", "April", "May", "June", "July", "August", "September", "October",
    "November", "December"]

def weekdayNames : List String :=
  ["Monday", "Tuesday", "Wednesday", "Thursday", "Friday", "Saturday", "Sunday"]

def named (names : List String) (i : Nat) : List Char :=
  (names[i]?.getD "").toList

def short (name : List Char) : List Char :=
  name.take 3

def filling (pad : Pad) (width used : Nat) : List Char :=
  match pad with
  | .none => []
  | .zero => List.replicate (width - used) '0'
  | .space => List.replicate (width - used) ' '

/-- A whole number in at least `width` places. Zeros come after the sign and spaces before it. -/
def wide (pad : Pad) (width : Nat) (signed : Bool) (n : Int) : List Char :=
  let sign := if n < 0 then ['-'] else if signed then ['+'] else []
  let digits := Nat.toDigits 10 n.natAbs
  let fill := filling pad width (sign.length + digits.length)
  match pad with
  | .zero => sign ++ fill ++ digits
  | _ => fill ++ sign ++ digits

/-- A number in two places. The first place counts on past nine. -/
def twoPlaces (pad : Pad) (n : Nat) : List Char :=
  let tens :=
    if n / 10 = 0 && pad != .zero then filling pad 1 0 else [Char.ofNat ('0'.toNat + n / 10)]
  tens ++ [Char.ofNat ('0'.toNat + n % 10)]

/-- A year in four places. One that needs more, or is negative, has a sign. -/
def yearText (pad : Pad) (year : Int) : List Char :=
  if 0 ≤ year && year ≤ 9999 then wide pad 4 false year else wide pad 5 true year

/-- The century of a year. Only the last byte of its number is written. -/
def centuryByte (year : Int) : Nat :=
  (year / 100 % 256).toNat

def yearInCentury (year : Int) : Nat :=
  (year % 100).toNat

def Field.write (m : Moment) (pad : Pad) : Field → List Char
  | .year => yearText pad m.date.year
  | .century => twoPlaces pad (centuryByte m.date.year)
  | .yearOfCentury => twoPlaces pad (yearInCentury m.date.year)
  | .weekYear => yearText pad m.date.weekYear
  | .weekYearOfCentury => twoPlaces pad (yearInCentury m.date.weekYear)
  | .quarter => Nat.toDigits 10 m.date.quarter
  | .month => twoPlaces pad m.date.month
  | .day => twoPlaces pad m.date.day
  | .weekFromSunday => twoPlaces pad m.date.weekFromSunday
  | .weekFromMonday => twoPlaces pad m.date.weekFromMonday
  | .weekOfYear => twoPlaces pad m.date.weekOfYear
  | .weekdayFromSunday => Nat.toDigits 10 m.date.weekdayFromSunday
  | .weekdayFromMonday => Nat.toDigits 10 (m.date.weekday + 1)
  | .ordinal => wide pad 3 false m.date.ordinal
  | .hour => twoPlaces pad m.hour
  | .dialHour => twoPlaces pad m.dialHour
  | .minute => twoPlaces pad m.minute
  | .second => twoPlaces pad m.shownSecond
  | .nanosecond => wide pad 9 false m.shownNanosecond
  | .seconds => wide pad 9 false m.seconds

def leadingDigits (digits nanosecond : Nat) : List Char :=
  wide .zero digits false (nanosecond / Nat.pow 10 (9 - digits) : Nat)

/-- A point and as many groups of three digits as it takes, or nothing for zero. -/
def fractionText (nanosecond : Nat) : List Char :=
  if nanosecond = 0 then []
  else if nanosecond % 1000000 = 0 then '.' :: leadingDigits 3 nanosecond
  else if nanosecond % 1000 = 0 then '.' :: leadingDigits 6 nanosecond
  else '.' :: leadingDigits 9 nanosecond

def zoneText (form : ZoneForm) (offset : Int) : List Char :=
  let sign := if offset < 0 then '-' else '+'
  let hours := twoPlaces .zero (offset.natAbs / 60)
  let minutes := twoPlaces .zero (offset.natAbs % 60)
  match form with
  | .compact => sign :: hours ++ minutes
  | .colon => sign :: hours ++ ':' :: minutes
  | .colons => sign :: hours ++ ':' :: minutes ++ [':', '0', '0']
  | .hours => sign :: hours

def stampText (m : Moment) : List Char :=
  yearText .zero m.date.year ++ '-' :: twoPlaces .zero m.date.month
    ++ '-' :: twoPlaces .zero m.date.day ++ 'T' :: twoPlaces .zero m.hour
    ++ ':' :: twoPlaces .zero m.minute ++ ':' :: twoPlaces .zero m.shownSecond
    ++ fractionText m.shownNanosecond ++ zoneText .colon m.offset

def Item.write (m : Moment) : Item → List Char
  | .char c => [c]
  | .number field pad => field.write m pad
  | .monthName => named monthNames (m.date.month - 1)
  | .monthShort => short (named monthNames (m.date.month - 1))
  | .weekdayName => named weekdayNames m.date.weekday
  | .weekdayShort => short (named weekdayNames m.date.weekday)
  | .halfUpper => if m.isAfternoon then ['P', 'M'] else ['A', 'M']
  | .halfLower => if m.isAfternoon then ['p', 'm'] else ['a', 'm']
  | .fraction => fractionText m.shownNanosecond
  | .fractionDigits point digits =>
    (if point then ['.'] else []) ++ leadingDigits digits m.shownNanosecond
  | .zone form => zoneText form m.offset
  | .stamp => stampText m

def Moment.write? (m : Moment) (pattern : List Char) : Option (List Char) :=
  (items? pattern).map fun items => items.flatMap (Item.write m)

end Stencil.Calendar
