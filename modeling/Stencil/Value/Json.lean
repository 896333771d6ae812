import Stencil.Decimal.Read
import Stencil.Json.Basic
import Stencil.Value.Basic

/-!
Values to JSON and back. A record becomes the object of the fields it lists; a double that is no
number becomes null.
-/

namespace Stencil.Value

mutual

/-- The JSON form of a value, where `settle` treats the members that come from a record. -/
def encode (settle : Entries Json → Entries Json) : Value → Json
  | .null => .null
  | .bool b => .bool b
  | .int n => .int n.toInt
  | .float x => if x.isFinite then .float x else .null
  | .string s => .string s
  | .array items => .array (encodeItems settle items)
  | .map entries => .object (encodeEntries settle entries)
  | .record _ _ names fields =>
    let members := encodeEntries settle fields
    .object (settle (names.map fun name => (name, (members.lookup name).getD .null)))

def encodeItems (settle : Entries Json → Entries Json) : List Value → List Json
  | [] => []
  | x :: xs => encode settle x :: encodeItems settle xs

def encodeEntries (settle : Entries Json → Entries Json) :
    List (String × Value) → List (String × Json)
  | [] => []
  | (k, v) :: rest => (k, encode settle v) :: encodeEntries settle rest

end

def toJson : Value → Json :=
  encode Entries.ofPairs

def listing : Value → Json :=
  encode id

def nearestFloat (n : Int) : Float :=
  let magnitude :=
    if n.natAbs < UInt64.size then n.natAbs.toUInt64.toFloat else Decimal.nearest n.natAbs 0
  if n < 0 then -magnitude else magnitude

def ofInt (n : Int) : Value :=
  match int64? n with
  | some small => .int small
  | none => .float (nearestFloat n)

mutual

def ofJson : Json → Value
  | .null => .null
  | .bool b => .bool b
  | .int n => ofInt n
  | .float x => .float x
  | .string s => .string s
  | .array items => .array (ofJsonItems items)
  | .object members => .map (ofJsonMembers members)

def ofJsonItems : List Json → List Value
  | [] => []
  | j :: js => ofJson j :: ofJsonItems js

def ofJsonMembers : List (String × Json) → List (String × Value)
  | [] => []
  | (k, j) :: rest => (k, ofJson j) :: ofJsonMembers rest

end

end Stencil.Value
