import Stencil.Entries

/-!
Template values. Beside the shapes of JSON there are records: objects of the caller that are known
by their identity and answer for their fields by name.
-/

namespace Stencil

inductive Value where
  | null
  | bool (b : Bool)
  | int (n : Int64)
  | float (x : Float)
  | string (s : String)
  | array (items : List Value)
  /-- A map, whose keys are distinct and in order. -/
  | map (entries : List (String × Value))
  /-- An object of the caller: which one it is, the name of its type, the fields it lists, and the
  fields it has. The fields are there before a template asks for them: an object that makes a new one
  at every look, or that is found again behind its own fields, so that listing it has no end, is no
  value here. -/
  | record (identity : Nat) (typeName : String) (names : List String) (fields : List (String × Value))
  deriving Inhabited

namespace Value

inductive Kind where
  | null
  | bool
  | int
  | float
  | string
  | array
  | map
  | record
  deriving DecidableEq, Repr

def Kind.name : Kind → String
  | .null => "null"
  | .bool => "bool"
  | .int => "int"
  | .float => "float"
  | .string => "string"
  | .array => "array"
  | .map => "map"
  | .record => "record"

def kind : Value → Kind
  | .null => .null
  | .bool _ => .bool
  | .int _ => .int
  | .float _ => .float
  | .string _ => .string
  | .array _ => .array
  | .map _ => .map
  | .record .. => .record

def isNull : Value → Bool
  | .null => true
  | _ => false

def text? : Value → Option String
  | .string s => some s
  | _ => none

def int? : Value → Option Int64
  | .int n => some n
  | _ => none

/-- The fields that a record lists, each with its value, or with null if the record lacks it. -/
def listed (names : List String) (fields : Entries Value) : Entries Value :=
  names.map fun name => (name, (fields.lookup name).getD .null)

def pairs? : Value → Option (List (Value × Value))
  | .null => some []
  | .array items => some (items.zipIdx.map fun (x, i) => (.int (Int64.ofNat i), x))
  | .map entries => some (entries.map fun (k, v) => (.string k, v))
  | .record _ _ names fields => some ((listed names fields).map fun (k, v) => (.string k, v))
  | _ => none

end Value

end Stencil
