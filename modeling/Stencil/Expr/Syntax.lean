import Stencil.Path

namespace Stencil

inductive UnaryOp where
  | not
  | neg
  deriving DecidableEq, Repr

inductive BinaryOp where
  | add
  | sub
  | mul
  | div
  | mod
  | concat
  | eq
  | notEq
  | identical
  | notIdentical
  | lt
  | le
  | gt
  | ge
  deriving DecidableEq, Repr

inductive LogicalOp where
  | and
  | or
  | coalesce
  deriving DecidableEq, Repr

inductive Expr where
  | literal (v : Value)
  | path (p : VariablePath)
  | index (target index : Expr)
  | member (target : Expr) (segment : Segment)
  | call (name : String) (args : List Expr)
  | unary (op : UnaryOp) (operand : Expr)
  | binary (op : BinaryOp) (left right : Expr)
  | logical (op : LogicalOp) (left right : Expr)
  | conditional (condition yes no : Expr)
  | array (items : List Expr)
  deriving Inhabited

inductive AssignOp where
  | set
  | add
  | sub
  | concat
  deriving DecidableEq, Repr

inductive Stmt where
  | assign (target : String) (op : AssignOp) (value : Expr)
  | increment (target : String)
  | decrement (target : String)
  | expr (e : Expr)

structure ForeachHeader where
  iterable : Expr
  key : Option String
  value : String

/-- The three clauses of a `for`. Without a condition it goes on. -/
structure ForHeader where
  first : List Stmt
  condition : Option Expr
  step : List Stmt

end Stencil
