import Stencil.Calendar.Moment
import Stencil.Decimal.Read
import Stencil.Text.Blank

namespace Stencil.Calendar

/-- The number of `least` to `most` digits at the front of a text, and what follows it. -/
def digits? (least most : Nat) (cs : List Char) : Option (Nat × List Char) :=
  let digits := (cs.take most).takeWhile Decimal.isDigit
  if digits.length < least || digits.isEmpty then none
  else some (Decimal.digitsValue digits, cs.drop digits.length)

def char? (wanted : Char) : List Char → Option (List Char)
  | [] => none
  | c :: cs => if c = wanted then some cs else none

/-- A time of day on a date. Second 60 is a leap second after second 59. -/
def moment? (date : Date) (hour minute second nanosecond : Nat) (offset : Int) : Option Moment :=
  if hour < 24 && minute < 60 && second ≤ 60 then
    if second = 60 then some ⟨date, hour, minute, 59, nanosecondsPerSecond + nanosecond, offset⟩
    else some ⟨date, hour, minute, second, nanosecond, offset⟩
  else none

/-- The billionths after a point, of which only nine digits count. -/
def fraction? : List Char → Option (Nat × List Char)
  | '.' :: cs => do
    let (n, rest) ← digits? 1 9 cs
    let count := cs.length - rest.length
    return (n * Nat.pow 10 (9 - count), rest.dropWhile Decimal.isDigit)
  | cs => some (0, cs)

/-- The character is a sign before a distance. The minus sign of mathematics is one too. -/
def isSign (c : Char) : Bool :=
  c == '+' || c == '-' || c.toNat == 0x2212

def offset? : List Char → Option (Int × List Char)
  | [] => none
  | c :: cs =>
    if c = 'Z' || c = 'z' then some (0, cs)
    else do
      guard (isSign c)
      let (hours, rest) ← digits? 2 2 cs
      let (minutes, rest) ← digits? 2 2 (← char? ':' rest)
      guard (hours < 24 && minutes < 60)
      let distance : Int := (hours * 60 + minutes : Nat)
      return (if c = '+' then distance else -distance, rest)

def stamp? (cs : List Char) : Option Moment := do
  let (year, rest) ← digits? 4 4 cs
  let (month, rest) ← digits? 2 2 (← char? '-' rest)
  let (day, rest) ← digits? 2 2 (← char? '-' rest)
  let separator ← rest.head?
  guard (separator = 'T' || separator = 't' || separator = ' ')
  let (hour, rest) ← digits? 2 2 rest.tail
  let (minute, rest) ← digits? 2 2 (← char? ':' rest)
  let (second, rest) ← digits? 2 2 (← char? ':' rest)
  let (nanosecond, rest) ← fraction? rest
  let (offset, rest) ← offset? rest
  guard rest.isEmpty
  moment? (← Date.of? year month day) hour minute second nanosecond offset

def spaced? (most : Nat) (cs : List Char) : Option (Nat × List Char) :=
  digits? 1 most (Text.trimStart cs)

/-- A year of at most four digits, or of any number of digits after a sign. -/
def year? (cs : List Char) : Option (Int × List Char) :=
  match Text.trimStart cs with
  | '-' :: rest => (digits? 1 rest.length rest).map fun (n, rest) => (-(n : Int), rest)
  | '+' :: rest => (digits? 1 rest.length rest).map fun (n, rest) => ((n : Int), rest)
  | rest => (digits? 1 4 rest).map fun (n, rest) => ((n : Int), rest)

def dateStart? (cs : List Char) : Option (Date × List Char) := do
  let (year, rest) ← year? cs
  let (month, rest) ← spaced? 2 (← char? '-' rest)
  let (day, rest) ← spaced? 2 (← char? '-' rest)
  return (← Date.of? year month day, rest)

def dateAndTime? (cs : List Char) : Option Moment := do
  let (date, rest) ← dateStart? cs
  let (hour, rest) ← spaced? 2 rest
  let (minute, rest) ← spaced? 2 (← char? ':' rest)
  let (second, rest) ← spaced? 2 (← char? ':' rest)
  guard rest.isEmpty
  moment? date hour minute second 0 0

def dateOnly? (cs : List Char) : Option Moment := do
  let (date, rest) ← dateStart? cs
  guard rest.isEmpty
  moment? date 0 0 0 0 0

/-- The moment that a text spells at the moment `now`. -/
def Moment.ofText? (now : Moment) (cs : List Char) : Option Moment :=
  if cs.map Char.toLower = "now".toList then some now
  else
    match Decimal.readInt64? cs with
    | some n => Moment.ofSeconds? n.toInt
    | none => (stamp? cs).or ((dateAndTime? cs).or (dateOnly? cs))

end Stencil.Calendar
