import Stencil.Value.Basic

/-!
Strict equality: the same shape and the same content. Maps are compared regardless of the order of
their entries, and a record is equal to itself only.
-/

namespace Stencil.Value

mutual

def identical : Value → Value → Bool
  | .null, .null => true
  | .bool a, .bool b => a == b
  | .int a, .int b => a == b
  | .float a, .float b => a == b
  | .string a, .string b => a == b
  | .array a, .array b => identicalItems a b
  | .map a, .map b => a.length == b.length && identicalEntries a b
  | .record a .., .record b .. => a == b
  | _, _ => false

def identicalItems : List Value → List Value → Bool
  | [], [] => true
  | x :: xs, y :: ys => identical x y && identicalItems xs ys
  | _, _ => false

def identicalEntries : List (String × Value) → List (String × Value) → Bool
  | [], _ => true
  | (k, v) :: rest, other =>
    (match other.lookup k with
      | some w => identical v w
      | none => false) && identicalEntries rest other

end

end Stencil.Value
