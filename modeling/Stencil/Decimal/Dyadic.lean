namespace Stencil.Decimal

/-- The magnitude `mantissa * 2 ^ exponent` of a finite double. -/
structure Dyadic where
  mantissa : Nat
  exponent : Int
  /-- The next double below is half as far away as the next one above. -/
  narrowBelow : Bool
  deriving DecidableEq, Repr

def Dyadic.ofBits (bits : UInt64) : Dyadic :=
  let field := (bits >>> 52 &&& 0x7ff).toNat
  let fraction := (bits &&& 0xfffffffffffff).toNat
  if field = 0 then ⟨fraction, -1074, false⟩
  else ⟨0x10000000000000 + fraction, (field : Int) - 1075, fraction == 0 && 1 < field⟩

def Dyadic.whole (x : Dyadic) : Nat :=
  x.mantissa * Nat.pow 2 x.exponent.toNat / Nat.pow 2 (-x.exponent).toNat

def Dyadic.isWhole (x : Dyadic) : Bool :=
  x.mantissa % Nat.pow 2 (-x.exponent).toNat == 0

def magnitude (x : Float) : Dyadic :=
  Dyadic.ofBits x.toBits

def isNegative (x : Float) : Bool :=
  x.toBits >>> 63 == 1

def truncate (x : Float) : Int :=
  if isNegative x then -(magnitude x).whole else (magnitude x).whole

end Stencil.Decimal
