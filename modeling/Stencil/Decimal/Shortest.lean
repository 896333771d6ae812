import Stencil.Decimal.Dyadic

/-!
The fewest decimal digits that read back to a double. Every quantity is a whole number of quarter
units, where one unit is the last place of the exact decimal expansion of the double.
-/

namespace Stencil.Decimal

/-- The number `digits * 10 ^ exponent`. -/
structure Numeral where
  digits : Nat
  exponent : Int
  deriving DecidableEq, Repr

inductive Tie where
  | even
  | up
  deriving DecidableEq, Repr

def Dyadic.scale (x : Dyadic) : Nat :=
  Nat.pow 2 x.exponent.toNat * Nat.pow 5 (-x.exponent).toNat

def Dyadic.unit (x : Dyadic) : Int :=
  min x.exponent 0

def Dyadic.exact (x : Dyadic) : Nat :=
  x.mantissa * x.scale

/-- A number of units lies among the reals that round to the double: closer to it than to its
neighbours, or half-way with an even mantissa. -/
def Dyadic.roundsFrom (x : Dyadic) (n : Nat) : Bool :=
  let low := (4 * x.mantissa - if x.narrowBelow then 1 else 2) * x.scale
  let high := (4 * x.mantissa + 2) * x.scale
  if x.mantissa % 2 = 0 then low ≤ 4 * n && 4 * n ≤ high else low < 4 * n && 4 * n < high

def Dyadic.onGrid? (x : Dyadic) (tie : Tie) (step : Nat) : Option Nat :=
  let below := x.exact / step
  match x.roundsFrom (below * step), x.roundsFrom ((below + 1) * step) with
  | true, false => some below
  | false, true => some (below + 1)
  | true, true =>
    match compare (2 * x.exact) ((2 * below + 1) * step) with
    | .lt => some below
    | .gt => some (below + 1)
    | .eq => if tie = .even && below % 2 = 0 then some below else some (below + 1)
  | false, false => none

def digitCount (n : Nat) : Nat :=
  (Nat.toDigits 10 n).length

def Dyadic.search (x : Dyadic) (tie : Tie) : Nat → Numeral
  | 0 => ⟨x.exact, x.unit⟩
  | places + 1 =>
    match x.onGrid? tie (Nat.pow 10 places) with
    | some n => ⟨n, x.unit + places⟩
    | none => x.search tie places

def Numeral.strip (fuel : Nat) (d : Numeral) : Numeral :=
  match fuel with
  | 0 => d
  | fuel + 1 => if d.digits % 10 = 0 then strip fuel ⟨d.digits / 10, d.exponent + 1⟩ else d

/-- The numeral of fewest digits that reads back to the double. -/
def Dyadic.shortest (x : Dyadic) (tie : Tie) : Numeral :=
  if x.mantissa = 0 then ⟨0, 0⟩
  else
    let found := x.search tie (digitCount x.exact)
    found.strip (digitCount found.digits - 1)

end Stencil.Decimal
