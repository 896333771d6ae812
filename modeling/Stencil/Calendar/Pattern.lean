import Stencil.Calendar.Moment

namespace Stencil.Calendar

inductive Pad where
  | none
  | zero
  | space
  deriving DecidableEq, Repr

inductive Field where
  | year
  | century
  | yearOfCentury
  | weekYear
  | weekYearOfCentury
  | quarter
  | month
  | day
  | weekFromSunday
  | weekFromMonday
  | weekOfYear
  | weekdayFromSunday
  | weekdayFromMonday
  | ordinal
  | hour
  | dialHour
  | minute
  | second
  | nanosecond
  | seconds
  deriving DecidableEq, Repr

inductive ZoneForm where
  | compact
  | colon
  | colons
  | hours
  deriving DecidableEq, Repr

inductive Item where
  | char (c : Char)
  | number (field : Field) (pad : Pad)
  | monthName
  | monthShort
  | weekdayName
  | weekdayShort
  | halfUpper
  | halfLower
  /-- A point and the fraction of the second, in groups of three digits, or nothing for zero. -/
  | fraction
  | fractionDigits (point : Bool) (digits : Nat)
  | zone (form : ZoneForm)
  | stamp
  deriving DecidableEq, Repr

namespace Item

def two (field : Field) : Item :=
  .number field .zero

def clock : List Item :=
  [two .hour, .char ':', two .minute, .char ':', two .second]

def shortDate : List Item :=
  [two .month, .char '/', two .day, .char '/', two .yearOfCentury]

def ofLetter? : Char → Option (List Item)
  | 'A' => some [.weekdayName]
  | 'B' => some [.monthName]
  | 'C' => some [two .century]
  | 'D' => some shortDate
  | 'F' => some [two .year, .char '-', two .month, .char '-', two .day]
  | 'G' => some [two .weekYear]
  | 'H' => some [two .hour]
  | 'I' => some [two .dialHour]
  | 'M' => some [two .minute]
  | 'P' => some [.halfLower]
  | 'R' => some [two .hour, .char ':', two .minute]
  | 'S' => some [two .second]
  | 'T' => some clock
  | 'U' => some [two .weekFromSunday]
  | 'V' => some [two .weekOfYear]
  | 'W' => some [two .weekFromMonday]
  | 'X' => some clock
  | 'Y' => some [two .year]
  | 'Z' => some [.zone .colon]
  | 'a' => some [.weekdayShort]
  | 'b' => some [.monthShort]
  | 'c' =>
    some ([.weekdayShort, .char ' ', .monthShort, .char ' ', .number .day .space, .char ' '] ++ clock
      ++ [.char ' ', two .year])
  | 'd' => some [two .day]
  | 'e' => some [.number .day .space]
  | 'f' => some [two .nanosecond]
  | 'g' => some [two .weekYearOfCentury]
  | 'h' => some [.monthShort]
  | 'j' => some [two .ordinal]
  | 'k' => some [.number .hour .space]
  | 'l' => some [.number .dialHour .space]
  | 'm' => some [two .month]
  | 'n' => some [.char '\n']
  | 'p' => some [.halfUpper]
  | 'q' => some [.number .quarter .none]
  | 'r' =>
    some [two .dialHour, .char ':', two .minute, .char ':', two .second, .char ' ', .halfUpper]
  | 's' => some [.number .seconds .none]
  | 't' => some [.char '\t']
  | 'u' => some [.number .weekdayFromMonday .none]
  | 'v' => some [.number .day .space, .char '-', .monthShort, .char '-', two .year]
  | 'w' => some [.number .weekdayFromSunday .none]
  | 'x' => some shortDate
  | 'y' => some [two .yearOfCentury]
  | 'z' => some [.zone .compact]
  | '+' => some [.stamp]
  | '%' => some [.char '%']
  | _ => none

/-- The items of a letter, where its number is filled in another way. Only a letter that stands for one
number allows that. -/
def refilled? (pad : Pad) (letter : Char) : Option (List Item) :=
  match ofLetter? letter with
  | some [.number field _] => some [.number field pad]
  | _ => none

def fractionDigits? (c : Char) : Option Nat :=
  if c == '3' then some 3 else if c == '6' then some 6 else if c == '9' then some 9 else none

/-- What the text after a percent sign stands for, and the text after the code. -/
def ofCode? : List Char → Option (List Item × List Char)
  | '-' :: c :: rest => (refilled? .none c).map (·, rest)
  | '0' :: c :: rest => (refilled? .zero c).map (·, rest)
  | '_' :: c :: rest => (refilled? .space c).map (·, rest)
  | ':' :: ':' :: ':' :: 'z' :: rest => some ([.zone .hours], rest)
  | ':' :: ':' :: 'z' :: rest => some ([.zone .colons], rest)
  | ':' :: 'z' :: rest => some ([.zone .colon], rest)
  | '.' :: 'f' :: rest => some ([.fraction], rest)
  | '.' :: d :: 'f' :: rest => (fractionDigits? d).map fun n => ([.fractionDigits true n], rest)
  | c :: rest =>
    match fractionDigits? c, rest with
    | some n, 'f' :: rest => some ([.fractionDigits false n], rest)
    | some _, _ => none
    | none, rest => (ofLetter? c).map (·, rest)
  | [] => none

theorem ofCode?_shorter {cs rest : List Char} {items : List Item}
    (h : ofCode? cs = some (items, rest)) : rest.length < cs.length := by
  unfold ofCode? at h
  split at h <;> grind [Option.map_eq_some_iff]

end Item

def items? (pattern : List Char) : Option (List Item) :=
  match pattern with
  | [] => some []
  | c :: cs =>
    if c = '%' then
      match _h : Item.ofCode? cs with
      | some (items, rest) => (items? rest).map (items ++ ·)
      | none => none
    else (items? cs).map (.char c :: ·)
termination_by pattern.length
decreasing_by
  · have := Item.ofCode?_shorter ‹_›
    simp only [List.length_cons]
    omega
  · simp

end Stencil.Calendar
