import Stencil.Decimal.Shortest

namespace Stencil.Decimal

structure Layout where
  /-- The powers of ten of the leading digit that are written without an exponent. -/
  positional : Int → Bool
  /-- A whole number keeps a `.0`. -/
  pointZero : Bool
  /-- An exponent that is not negative has a sign. -/
  plusSign : Bool
  tie : Tie
  nan : String
  infinity : String

def zeros (n : Nat) : List Char :=
  List.replicate n '0'

def Numeral.positional (d : Numeral) (pointZero : Bool) : List Char :=
  let ds := Nat.toDigits 10 d.digits
  let point := ds.length + d.exponent
  if 0 ≤ d.exponent then ds ++ zeros d.exponent.toNat ++ (if pointZero then ['.', '0'] else [])
  else if 0 < point then ds.take point.toNat ++ '.' :: ds.drop point.toNat
  else '0' :: '.' :: zeros (-point).toNat ++ ds

def Numeral.scientific (d : Numeral) (plusSign : Bool) : List Char :=
  let ds := Nat.toDigits 10 d.digits
  let power := ds.length + d.exponent - 1
  let lead := match ds with
    | [] => []
    | [c] => [c]
    | c :: cs => c :: '.' :: cs
  let sign := if 0 ≤ power && plusSign then ['+'] else []
  lead ++ 'e' :: sign ++ (toString power).toList

def Layout.write (l : Layout) (x : Float) : String :=
  let sign := if isNegative x then "-" else ""
  if x.isNaN then l.nan
  else if x.isInf then sign ++ l.infinity
  else
    let d := (magnitude x).shortest l.tie
    let power := digitCount d.digits + d.exponent - 1
    let body :=
      if l.positional power || d.digits = 0 then d.positional l.pointZero
      else d.scientific l.plusSign
    sign ++ String.ofList body

end Stencil.Decimal
