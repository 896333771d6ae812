import Stencil.Entries
import Stencil.Error
import Stencil.Text.Quoted

namespace Stencil

abbrev Function := List Value → Except CallFault Value

/-- Functions under distinct names, in the order in which they came. -/
structure FunctionTable where
  entries : Entries Function

namespace FunctionTable

def empty : FunctionTable :=
  ⟨[]⟩

def find? (table : FunctionTable) (name : String) : Option Function :=
  table.entries.lookup name

def contains (table : FunctionTable) (name : String) : Bool :=
  table.entries.has name

def register (table : FunctionTable) (name : String) (function : Function) :
    Except Error FunctionTable :=
  if table.contains name then .error (.duplicateFunction name)
  else .ok ⟨table.entries ++ [(name, function)]⟩

def size (table : FunctionTable) : Nat :=
  table.entries.length

def names (table : FunctionTable) : List String :=
  (Entries.keys table.entries).mergeSort

def call (table : FunctionTable) (name : String) (args : List Value) : Except Fault Value :=
  match table.find? name with
  | none => .error (.unknownFunction name)
  | some function => (function args).mapError (.call name)

def shown (table : FunctionTable) : String :=
  "FunctionRegistry \x7b functions: [" ++ ", ".intercalate (table.names.map Text.quoted) ++ "] \x7d"

theorem find?_register {table larger : FunctionTable} {name other : String} {function : Function}
    (h : table.register name function = .ok larger) :
    larger.find? other =
      (table.find? other).or (if other = name then some function else none) := by
  unfold register at h
  split at h
  · simp at h
  · cases h
    simp only [find?, List.lookup_append, Entries.lookup_entry, List.lookup_nil]

end FunctionTable

end Stencil
