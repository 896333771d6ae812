import Stencil.Error
import Stencil.Text.Name
import Stencil.Text.Split
import Stencil.Decimal.Read

/-!
Dotted paths into data, such as `user.tags.0`. Following a path never fails: where a step leads
nowhere, the whole path is absent.
-/

namespace Stencil

inductive Segment where
  | index (n : Nat)
  | key (s : String)
  deriving DecidableEq, Repr

namespace Segment

def indexBound : Nat :=
  UInt64.size

/-- A number in its shortest decimal form is an index, any other text a key. -/
def ofText (s : String) : Segment :=
  match Decimal.readNatural? s.toList with
  | some n => if n < indexBound && (Nat.toDigits 10 n) == s.toList then .index n else .key s
  | none => .key s

def text : Segment → String
  | .index n => toString n
  | .key s => s

end Segment

/-- What one step into a value finds. Only an index enters an array. -/
def Value.step? : Value → Segment → Option Value
  | .array items, .index n => items[n]?
  | .map entries, segment => entries.lookup segment.text
  | .record _ _ _ fields, segment => fields.lookup segment.text
  | _, _ => none

structure VariablePath where
  root : String
  segments : List Segment
  deriving DecidableEq, Repr

namespace VariablePath

def isPath (cs : List Char) : Bool :=
  match Text.split '.' cs with
  | root :: members => Text.isName root && members.all Text.isMember
  | [] => false

def ofText? (s : String) : Except Error VariablePath :=
  match Text.split '.' s.toList with
  | root :: members =>
    if isPath s.toList then
      .ok ⟨String.ofList root, members.map fun m => Segment.ofText (String.ofList m)⟩
    else .error (.invalidPath s)
  | [] => .error (.invalidPath s)

def text (p : VariablePath) : String :=
  p.segments.foldl (fun out segment => out ++ "." ++ segment.text) p.root

def resolve? (p : VariablePath) (lookup : String → Option Value) : Option Value :=
  (lookup p.root).bind fun v => p.segments.foldlM Value.step? v

theorem ne_nil_of_isPath {cs : List Char} (h : isPath cs = true) : cs ≠ [] := by
  rintro rfl
  simp [isPath, Text.split, Text.isName] at h

end VariablePath

end Stencil
