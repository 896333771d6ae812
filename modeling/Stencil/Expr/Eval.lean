import Stencil.Expr.Syntax
import Stencil.Function.Table
import Stencil.Scope
import Stencil.Value.Arithmetic
import Stencil.Value.Compare

/-!
What expressions and statements do. An expression has a value or a fault, and what a path does not
find is null; a statement also changes the scope.
-/

namespace Stencil

def UnaryOp.apply (op : UnaryOp) (v : Value) : Except Fault Value :=
  match op with
  | .not => .ok (.bool !v.truthy)
  | .neg => v.negate

def ordered (test : Ordering → Bool) (left right : Value) : Except Fault Value :=
  (left.compare right).map fun order => .bool (test order)

def BinaryOp.apply (op : BinaryOp) (left right : Value) : Except Fault Value :=
  match op with
  | .add => Value.combine .add left right
  | .sub => Value.combine .sub left right
  | .mul => Value.combine .mul left right
  | .div => left.divide right
  | .mod => left.modulo right
  | .concat => .ok (left.concat right)
  | .eq => .ok (.bool (left.loose right))
  | .notEq => .ok (.bool !left.loose right)
  | .identical => .ok (.bool (left.identical right))
  | .notIdentical => .ok (.bool !left.identical right)
  | .lt => ordered (· == .lt) left right
  | .le => ordered (· != .gt) left right
  | .gt => ordered (· == .gt) left right
  | .ge => ordered (· != .lt) left right

/-- The step that a subscript takes. Whole numbers from zero on are indices, booleans are the indices
zero and one, and what is no number and no text leads nowhere. -/
def Segment.ofValue? : Value → Option Segment
  | .int n => some (if 0 ≤ n.toInt then .index n.toInt.toNat else .key (toString n.toInt))
  | .float x =>
    if x.isFinite && (Decimal.magnitude x).isWhole && 0 ≤ x then
      some (.index (min (Decimal.truncate x).toNat (Segment.indexBound - 1)))
    else none
  | .string s => some (.ofText s)
  | .bool b => some (.index (if b then 1 else 0))
  | _ => none

def Value.member (v : Value) (segment : Segment) : Value :=
  (v.step? segment).getD .null

def Value.subscript (v index : Value) : Value :=
  ((Segment.ofValue? index).bind v.step?).getD .null

namespace Expr

mutual

def evaluate (functions : FunctionTable) (scope : Scope) : Expr → Except Fault Value
  | .literal v => .ok v
  | .path p => .ok ((p.resolve? scope.lookup).getD .null)
  | .member target segment => do
    return (← evaluate functions scope target).member segment
  | .index target position => do
    let container ← evaluate functions scope target
    return container.subscript (← evaluate functions scope position)
  | .call name args => do
    functions.call name (← evaluateAll functions scope args)
  | .unary op operand => do
    op.apply (← evaluate functions scope operand)
  | .binary op left right => do
    let a ← evaluate functions scope left
    let b ← evaluate functions scope right
    op.apply a b
  | .logical op left right => do
    let a ← evaluate functions scope left
    match op with
    | .and =>
      if a.truthy then return .bool (← evaluate functions scope right).truthy
      else return .bool false
    | .or =>
      if a.truthy then return .bool true
      else return .bool (← evaluate functions scope right).truthy
    | .coalesce => if a.isNull then evaluate functions scope right else return a
  | .conditional condition yes no => do
    if (← evaluate functions scope condition).truthy then evaluate functions scope yes
    else evaluate functions scope no
  | .array items => do
    return .array (← evaluateAll functions scope items)

def evaluateAll (functions : FunctionTable) (scope : Scope) : List Expr → Except Fault (List Value)
  | [] => .ok []
  | e :: es => do
    let v ← evaluate functions scope e
    return v :: (← evaluateAll functions scope es)

end

end Expr

def AssignOp.apply (op : AssignOp) (old new : Value) : Except Fault Value :=
  match op with
  | .set => .ok new
  | .add => BinaryOp.add.apply old new
  | .sub => BinaryOp.sub.apply old new
  | .concat => BinaryOp.concat.apply old new

namespace Stmt

/-- The scope after a statement. A fault leaves no scope. -/
def run (functions : FunctionTable) (scope : Scope) : Stmt → Except Fault Scope
  | .assign target op value => do
    let new ← value.evaluate functions scope
    return scope.assign target (← op.apply (scope.current target) new)
  | .increment target => do
    return scope.assign target (← BinaryOp.add.apply (scope.current target) (.int 1))
  | .decrement target => do
    return scope.assign target (← BinaryOp.sub.apply (scope.current target) (.int 1))
  | .expr e => do
    let _ ← e.evaluate functions scope
    return scope

def runAll (functions : FunctionTable) (scope : Scope) (statements : List Stmt) :
    Except Fault Scope :=
  statements.foldlM (run functions) scope

end Stmt

end Stencil
