import Stencil.Expr.Token
import Stencil.Expr.Syntax

/-!
What can follow an operand, and how tightly it binds. A greater level binds more tightly.
-/

namespace Stencil

def UnaryOp.level : Nat :=
  10

def BinaryOp.level : BinaryOp → Nat
  | .eq | .notEq | .identical | .notIdentical => 5
  | .lt | .le | .gt | .ge => 6
  | .concat => 7
  | .add | .sub => 8
  | .mul | .div | .mod => 9

/-- The least level that the right side of the operator can have. Equal operators group to the
left. -/
def BinaryOp.rightLevel (op : BinaryOp) : Nat :=
  op.level + 1

def LogicalOp.level : LogicalOp → Nat
  | .coalesce => 2
  | .or => 3
  | .and => 4

/-- The least level that the right side of the operator can have. Defaults group to the right. -/
def LogicalOp.rightLevel : LogicalOp → Nat
  | .coalesce => LogicalOp.coalesce.level
  | .or => LogicalOp.or.level + 1
  | .and => LogicalOp.and.level + 1

inductive Infix where
  | conditional
  | logical (op : LogicalOp)
  | binary (op : BinaryOp)
  | member
  | subscript
  deriving DecidableEq, Repr

namespace Infix

def conditionalLevel : Nat :=
  1

def accessLevel : Nat :=
  11

def level : Infix → Nat
  | conditional => conditionalLevel
  | logical op => op.level
  | binary op => op.level
  | member => accessLevel
  | subscript => accessLevel

def ofSymbol? : Symbol → Option Infix
  | .question => some conditional
  | .coalesce => some (logical .coalesce)
  | .orOr => some (logical .or)
  | .andAnd => some (logical .and)
  | .eqEq => some (binary .eq)
  | .notEq => some (binary .notEq)
  | .identical => some (binary .identical)
  | .notIdentical => some (binary .notIdentical)
  | .lt => some (binary .lt)
  | .le => some (binary .le)
  | .gt => some (binary .gt)
  | .ge => some (binary .ge)
  | .tilde => some (binary .concat)
  | .plus => some (binary .add)
  | .minus => some (binary .sub)
  | .star => some (binary .mul)
  | .slash => some (binary .div)
  | .percent => some (binary .mod)
  | .dot => some member
  | .lBracket => some subscript
  | _ => none

def ofToken? : TokenKind → Option Infix
  | .symbol s => ofSymbol? s
  | .ident word =>
    match Keyword.ofText? word with
    | some .or => some (logical .or)
    | some .and => some (logical .and)
    | _ => none
  | _ => none

end Infix

end Stencil
