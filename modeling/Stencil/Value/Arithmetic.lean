import Stencil.Value.Number

/-!
Arithmetic on values. Integers stay integers as long as the exact result is one that fits; otherwise
the result is a double.
-/

namespace Stencil

def operand (v : Value) : Except Fault Number :=
  v.toNumber.mapError .notNumeric

inductive RingOp where
  | add
  | sub
  | mul
  deriving DecidableEq, Repr

def RingOp.onInt : RingOp → Int → Int → Int
  | .add, a, b => a + b
  | .sub, a, b => a - b
  | .mul, a, b => a * b

def RingOp.onFloat : RingOp → Float → Float → Float
  | .add, a, b => a + b
  | .sub, a, b => a - b
  | .mul, a, b => a * b

namespace Number

/-- The exact integer if both numbers are integers and it fits, else the double. -/
def combine (op : RingOp) (a b : Number) : Number :=
  let rounded := Number.float (op.onFloat a.toFloat b.toFloat)
  match a, b with
  | .int x, .int y => ((int64? (op.onInt x.toInt y.toInt)).map .int).getD rounded
  | _, _ => rounded

/-- The negated number. The least integer has no integer negation. -/
def negate : Number → Number
  | .int n => ((int64? (-n.toInt)).map .int).getD (.float (-(Number.int n).toFloat))
  | .float x => .float (-x)

/-- The quotient: an integer if both numbers are and it is whole and fits, else a double. -/
def divide (a b : Number) : Except Fault Number :=
  if b.toFloat == 0 then .error .divisionByZero
  else
    let rounded := Number.float (a.toFloat / b.toFloat)
    match a, b with
    | .int x, .int y =>
      if x.toInt.tmod y.toInt = 0 then
        .ok (((int64? (x.toInt.tdiv y.toInt)).map .int).getD rounded)
      else .ok rounded
    | _, _ => .ok rounded

/-- The remainder of the numbers without their fractions, with the sign of the dividend. -/
def modulo (a b : Number) : Except Fault Number :=
  let (x, y) := (a.truncate.toInt, b.truncate.toInt)
  if y = 0 then .error .moduloByZero else .ok (.int (Int64.ofInt (x.tmod y)))

end Number

namespace Value

def combine (op : RingOp) (left right : Value) : Except Fault Value := do
  let a ← operand left
  let b ← operand right
  return (Number.combine op a b).toValue

def negate (v : Value) : Except Fault Value := do
  let n ← operand v
  return n.negate.toValue

def divide (left right : Value) : Except Fault Value := do
  let a ← operand left
  let b ← operand right
  return (← Number.divide a b).toValue

def modulo (left right : Value) : Except Fault Value := do
  let a ← operand left
  let b ← operand right
  return (← Number.modulo a b).toValue

def concat (left right : Value) : Value :=
  .string (left.display ++ right.display)

end Value

end Stencil
