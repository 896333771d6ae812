import Stencil.Decimal.Dyadic

namespace Stencil

def int64? (n : Int) : Option Int64 :=
  if Int64.minValue.toInt ≤ n ∧ n ≤ Int64.maxValue.toInt then some (Int64.ofInt n) else none

end Stencil

namespace Stencil.Decimal

def isDigit (c : Char) : Bool :=
  '0' ≤ c && c ≤ '9'

def digitsValue (ds : List Char) : Nat :=
  ds.foldl (fun n c => 10 * n + (c.toNat - '0'.toNat)) 0

def readNatural? (cs : List Char) : Option Nat :=
  if !cs.isEmpty && cs.all isDigit then some (digitsValue cs) else none

/-- The sign at the front of a text, true for a minus, and what follows. -/
def takeSign : List Char → Bool × List Char
  | '-' :: cs => (true, cs)
  | '+' :: cs => (false, cs)
  | cs => (false, cs)

def readInteger? (cs : List Char) : Option Int :=
  let (negative, digits) := takeSign cs
  (readNatural? digits).map fun n => if negative then -n else n

def readInt64? (cs : List Char) : Option Int64 :=
  (readInteger? cs).bind int64?

/-- The double nearest to `n * 10 ^ e`. Beyond the range of doubles no power of ten is built. -/
def nearest (n : Nat) (e : Int) : Float :=
  let power := (Nat.toDigits 10 n).length + e
  if n = 0 then 0
  else if 400 < power then Float.ofBits 0x7ff0000000000000
  else if power < -400 then 0
  else Float.ofScientific n (e < 0) e.natAbs

def readExponent? : List Char → Option Int
  | [] => some 0
  | c :: cs => if c == 'e' || c == 'E' then readInteger? cs else none

/-- The double that an unsigned decimal spells: digits with an optional point among or beside them,
then an optional exponent. -/
def readUnsigned? (cs : List Char) : Option Float :=
  let whole := cs.takeWhile isDigit
  let (fraction, rest) := match cs.dropWhile isDigit with
    | '.' :: more => (more.takeWhile isDigit, more.dropWhile isDigit)
    | more => ([], more)
  if whole.isEmpty && fraction.isEmpty then none
  else (readExponent? rest).map fun e => nearest (digitsValue (whole ++ fraction)) (e - fraction.length)

def readDecimal? (cs : List Char) : Option Float :=
  let (negative, rest) := takeSign cs
  (readUnsigned? rest).map fun x => if negative then -x else x

end Stencil.Decimal
