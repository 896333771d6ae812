import Stencil.Decimal.Read
import Stencil.Error
import Stencil.Text.Blank

namespace Stencil

inductive Number where
  | int (n : Int64)
  | float (x : Float)

def Number.toFloat : Number → Float
  | .int n => Value.nearestFloat n.toInt
  | .float x => x

def Number.toValue : Number → Value
  | .int n => .int n
  | .float x => .float x

def clampInt64 (n : Int) : Int64 :=
  Int64.ofInt (max Int64.minValue.toInt (min n Int64.maxValue.toInt))

/-- A number without its fraction. What is no number at all counts as zero. -/
def Number.truncate : Number → Int64
  | .int n => n
  | .float x =>
    if x.isNaN then 0
    else if x.isInf then (if Decimal.isNegative x then Int64.minValue else Int64.maxValue)
    else clampInt64 (Decimal.truncate x)

/-- The number that a text spells, blanks around it apart. Without a point or an exponent, and within
the range of integers, it is an integer. -/
def readNumber? (s : String) : Option Number :=
  let cs := Text.trim s.toList
  match Decimal.readInt64? cs with
  | some n => some (.int n)
  | none => (Decimal.readDecimal? cs).map .float

namespace Value

/-- Null, false, zero, the texts `""` and `"0"`, and empty containers are false. -/
def truthy : Value → Bool
  | .null => false
  | .bool b => b
  | .int n => n != 0
  | .float x => x != 0
  | .string s => s != "" && s != "0"
  | .array items => !items.isEmpty
  | .map entries => !entries.isEmpty
  | .record .. => true

/-- The number that a value stands for. Null is zero and a boolean is zero or one. -/
def toNumber : Value → Except NotNumeric Number
  | .null => .ok (.int 0)
  | .bool b => .ok (.int (if b then 1 else 0))
  | .int n => .ok (.int n)
  | .float x => .ok (.float x)
  | .string s =>
    match readNumber? s with
    | some n => .ok n
    | none => .error (.text s)
  | v => .error (.kind v.kind)

def float? : Value → Option Float
  | .int n => some (nearestFloat n.toInt)
  | .float x => some x
  | _ => none

end Value

end Stencil
