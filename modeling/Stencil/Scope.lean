import Stencil.Error
import Stencil.Value.Json

namespace Stencil

abbrev Context := Entries Value

namespace Context

def ofJson : Json → Except Error Context
  | .object members =>
    .ok (Entries.ofPairs (members.map fun (name, j) => (name, Value.ofJson j)))
  | other => .error (.invalidContext other.kind)

def ofValue (v : Value) : Except Error Context :=
  ofJson v.toJson

end Context

structure Scope where
  context : Context
  locals : Entries Value

namespace Scope

def start (context : Context) : Scope :=
  ⟨context, []⟩

def lookup (scope : Scope) (name : String) : Option Value :=
  (scope.locals.lookup name).or (scope.context.lookup name)

def current (scope : Scope) (name : String) : Value :=
  (scope.lookup name).getD .null

def assign (scope : Scope) (name : String) (value : Value) : Scope :=
  { scope with locals := Entries.put name value scope.locals }

theorem lookup_assign (scope : Scope) (name other : String) (value : Value) :
    (scope.assign name value).lookup other =
      if other = name then some value else scope.lookup other := by
  simp only [lookup, assign, Entries.lookup_put]
  split <;> rfl

end Scope

end Stencil
