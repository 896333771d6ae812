import Stencil.Directive.Basic
import Stencil.Error
import Stencil.Text.Name

namespace Stencil

structure DirectiveTable where
  directives : List Directive

namespace DirectiveTable

def empty : DirectiveTable :=
  ⟨[]⟩

def names (table : DirectiveTable) : List String :=
  table.directives.map Directive.name

def find? (table : DirectiveTable) (name : String) : Option Directive :=
  table.directives.find? fun d => d.name == name

def contains (table : DirectiveTable) (name : String) : Bool :=
  (table.find? name).isSome

def size (table : DirectiveTable) : Nat :=
  table.directives.length

def register (table : DirectiveTable) (d : Directive) : Except Error DirectiveTable :=
  if table.contains d.name then .error (.duplicateDirective d.name)
  else if Text.isName d.name.toList then .ok ⟨table.directives ++ [d]⟩
  else .error (.invalidDirective d.name)

/-- Add directives one after the other, up to the first that is refused. Those before it stay. -/
def registerEach (table : DirectiveTable) : List Directive → DirectiveTable × Option Error
  | [] => (table, none)
  | d :: ds =>
    match table.register d with
    | .ok larger => larger.registerEach ds
    | .error e => (table, some e)

def expand (table : DirectiveTable) (cs : List Char) : List Char :=
  table.directives.foldl (fun text d => d.expand text) cs

def Distinct (table : DirectiveTable) : Prop :=
  table.names.Nodup

theorem contains_eq_true_iff {table : DirectiveTable} {name : String} :
    table.contains name = true ↔ name ∈ table.names := by
  simp [contains, find?, names]

theorem Distinct.register {table larger : DirectiveTable} {d : Directive} (h : table.Distinct)
    (added : table.register d = .ok larger) : larger.Distinct := by
  unfold DirectiveTable.register at added
  split at added
  · simp at added
  · next fresh =>
    rw [contains_eq_true_iff] at fresh
    split at added
    · cases added
      unfold Distinct names at h ⊢
      rw [List.map_append]
      refine List.nodup_append.2 ⟨h, by simp, ?_⟩
      rintro a known b new rfl
      simp only [List.map_cons, List.map_nil, List.mem_singleton] at new
      exact fresh (new ▸ known)
    · simp at added

end DirectiveTable

end Stencil
