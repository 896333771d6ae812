import Stencil.Value.Number
import Stencil.Value.Equality

namespace Stencil

def compareFloat (a b : Float) : Option Ordering :=
  if a < b then some .lt
  else if a == b then some .eq
  else if b < a then some .gt
  else none

def Number.compare : Number → Number → Option Ordering
  | .int a, .int b => some (Ord.compare a.toInt b.toInt)
  | a, b => compareFloat a.toFloat b.toFloat

namespace Value

def sameTruth (a b : Value) : Bool :=
  a.truthy == b.truthy

/-- A text is loosely equal to a number if it spells the number or prints like it. -/
def looseText (s : String) (x : Float) (printed : String) : Bool :=
  match readNumber? s with
  | some n => x == n.toFloat
  | none => s == printed

/-- Two texts are loosely equal if they spell one number, or if they do not both spell numbers and
are the same. -/
def looseTexts (s t : String) : Bool :=
  match readNumber? s, readNumber? t with
  | some a, some b => a.toFloat == b.toFloat
  | _, _ => s == t

mutual

/-- Loose equality. Null and booleans are compared as truths, numbers and texts that spell numbers
as numbers, and containers entry by entry. -/
def loose : Value → Value → Bool
  | .null, .null => true
  | .null, b => sameTruth .null b
  | .bool a, b => sameTruth (.bool a) b
  | .int a, .int b => a == b
  | .int a, .float b => nearestFloat a.toInt == b
  | .float a, .int b => a == nearestFloat b.toInt
  | .float a, .float b => a == b
  | .int a, .string s => looseText s (nearestFloat a.toInt) (display (.int a))
  | .float a, .string s => looseText s a (display (.float a))
  | .string s, .int b => looseText s (nearestFloat b.toInt) (display (.int b))
  | .string s, .float b => looseText s b (display (.float b))
  | .string s, .string t => looseTexts s t
  | .array a, .array b => looseItems a b
  | .map a, .map b => a.length == b.length && looseEntries a b
  | .record a .., .record b .. => a == b
  | a, .null => sameTruth a .null
  | a, .bool b => sameTruth a (.bool b)
  | _, _ => false

def looseItems : List Value → List Value → Bool
  | [], [] => true
  | x :: xs, y :: ys => loose x y && looseItems xs ys
  | _, _ => false

def looseEntries : List (String × Value) → List (String × Value) → Bool
  | [], _ => true
  | (k, v) :: rest, other =>
    (match other.lookup k with
      | some w => loose v w
      | none => false) && looseEntries rest other

end

def compareNumbers (a b : Value) : Option Ordering :=
  match a.toNumber, b.toNumber with
  | .ok x, .ok y => x.compare y
  | _, _ => none

/-- The order of two values, none if they have none. Two texts that do not both spell numbers are
ordered by their characters, and next to such a text null is the empty text. -/
def compare? (a b : Value) : Option Ordering :=
  match a, b with
  | .string s, .string t =>
    if (readNumber? s).isSome && (readNumber? t).isSome then compareNumbers a b
    else some (Ord.compare s t)
  | .null, .string t => if (readNumber? t).isSome then compareNumbers a b else some (Ord.compare "" t)
  | .string s, .null => if (readNumber? s).isSome then compareNumbers a b else some (Ord.compare s "")
  | _, _ => compareNumbers a b

def compare (a b : Value) : Except Fault Ordering :=
  match compare? a b with
  | some o => .ok o
  | none => .error (.incomparable a.kind b.kind)

end Value

end Stencil
