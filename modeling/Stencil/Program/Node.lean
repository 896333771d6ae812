import Stencil.Expr.Syntax

namespace Stencil

inductive Node where
  | text (s : String)
  /-- Write the printed value with entities. -/
  | print (e : Expr)
  /-- Write the printed value as it is. -/
  | echo (e : Expr)
  /-- Write the value for the author of the template. -/
  | dump (e : Expr)
  | exec (statements : List Stmt)
  | choose (branches : List (Expr × List Node)) (otherwise : Option (List Node))
  | foreach (header : ForeachHeader) (body : List Node)
  | forLoop (header : ForHeader) (body : List Node)
  | whileLoop (condition : Expr) (body : List Node)
  | doLoop (body : List Node) (condition : Expr)

structure Program where
  nodes : List Node

end Stencil
