import Stencil.Expr.Parser

/-!
# Readers by their equations alone

The readers of `Stencil.Parser` say in their types that they use up tokens, and this lets them call each
other. The readers here call each other freely, and their loops go round as long as they find something
to do. Nothing in them says that they ever end: work that goes on forever has no outcome.
-/

namespace Stencil

structure PlainParser where
  stop : Nat

namespace PlainParser

/-- Work on the tokens that are left. It has an outcome, an error or a value with the tokens that are
left after it, unless it goes on forever. -/
abbrev Work (α : Type) : Type :=
  StateT (List Token) (ExceptT Error Option) α

/-- What one round of a loop comes to. -/
inductive Round (α β : Type) where
  | again (a : α)
  | done (b : β)

def peek : Work (Option TokenKind) := do
  return (← get).head?.map (·.kind)

def peekNext : Work (Option TokenKind) := do
  return (← get).tail.head?.map (·.kind)

def advance : Work Unit :=
  modify List.tail

def unexpected {α : Type} (p : PlainParser) (what : Expected) : Work α := do
  throw (Parser.refusal p.stop what (← get))

def eat (s : Symbol) : Work Bool := do
  match ← peek with
  | some (.symbol found) =>
    if found = s then
      advance
      return true
    else return false
  | _ => return false

def expect (p : PlainParser) (s : Symbol) : Work Unit := do
  if ← eat s then return () else p.unexpected (.symbol s)

def expectEnd (p : PlainParser) : Work Unit := do
  match ← peek with
  | none => return ()
  | some _ => p.unexpected .ending

def memberName (p : PlainParser) : Work Segment := do
  match ← peek with
  | some (.segment word) | some (.ident word) =>
    advance
    return Segment.ofText word
  | _ => p.unexpected .memberName

def bindingName (p : PlainParser) : Work String := do
  match ← peek with
  | some (.ident word) =>
    if isKeyword word then p.unexpected .variableName
    else
      advance
      return word
  | some (.variable name) =>
    advance
    return name
  | _ => p.unexpected .variableName

def asWord (p : PlainParser) : Work Unit := do
  match ← peek with
  | some (.ident word) =>
    if Keyword.ofText? word = some .as then advance else p.unexpected .asWord
  | _ => p.unexpected .asWord

/-! ## Expressions -/

mutual

def expression (p : PlainParser) (least : Nat) : Work Expr := do
  p |>.continuation least (← p |>.operand)
partial_fixpoint

def continuation (p : PlainParser) (least : Nat) (left : Expr) : Work Expr := do
  match ← p |>.continuationRound least left with
  | .again whole => p |>.continuation least whole
  | .done whole => return whole
partial_fixpoint

def continuationRound (p : PlainParser) (least : Nat) (left : Expr) : Work (Round Expr Expr) := do
  match (← peek).bind Infix.ofToken? with
  | none => return .done left
  | some op =>
    if op.level < least then return .done left else return .again (← p |>.application op left)
partial_fixpoint

def application (p : PlainParser) (op : Infix) (left : Expr) : Work Expr := do
  advance
  p |>.rightSide op left
partial_fixpoint

def rightSide (p : PlainParser) (op : Infix) (left : Expr) : Work Expr := do
  match op with
  | .conditional =>
    let yes ← p |>.expression 0
    p.expect .colon
    return .conditional left yes (← p |>.expression Infix.conditionalLevel)
  | .logical op => return .logical op left (← p |>.expression op.rightLevel)
  | .binary op => return .binary op left (← p |>.expression op.rightLevel)
  | .member => return Parser.member left (← p.memberName)
  | .subscript =>
    let index ← p |>.expression 0
    p.expect .rBracket
    return .index left index
partial_fixpoint

def operand (p : PlainParser) : Work Expr := do
  match ← peek with
  | some (.int n) =>
    advance
    return .literal (.int n)
  | some (.float x) =>
    advance
    return .literal (.float x)
  | some (.str s) =>
    advance
    return .literal (.string s)
  | some (.variable name) =>
    advance
    return .path ⟨name, []⟩
  | some (.ident word) =>
    let ts ← get
    advance
    match Keyword.ofText? word with
    | some .true => return .literal (.bool true)
    | some .false => return .literal (.bool false)
    | some .null => return .literal .null
    | some .not => p |>.unary .not
    | some keyword => throw (.malformed (ts.head?.elim p.stop (·.offset)) (.unexpectedKeyword keyword))
    | none =>
      if ← eat .lParen then return .call word (← p |>.items .rParen) else return .path ⟨word, []⟩
  | some (.symbol .bang) =>
    advance
    p |>.unary .not
  | some (.symbol .minus) =>
    advance
    p |>.unary .neg
  | some (.symbol .lParen) =>
    advance
    let e ← p |>.expression 0
    p.expect .rParen
    return e
  | some (.symbol .lBracket) =>
    advance
    return .array (← p |>.items .rBracket)
  | _ => p.unexpected .expression
partial_fixpoint

def unary (p : PlainParser) (op : UnaryOp) : Work Expr := do
  return .unary op (← p |>.expression UnaryOp.level)
partial_fixpoint

def items (p : PlainParser) (close : Symbol) : Work (List Expr) := do
  match ← p |>.itemsRound close with
  | .again e => return e :: (← p |>.items close)
  | .done es => return es
partial_fixpoint

def itemsRound (p : PlainParser) (close : Symbol) : Work (Round Expr (List Expr)) := do
  if ← eat close then return .done []
  else
    let e ← p |>.expression 0
    if ← eat .comma then return .again e
    else
      p.expect close
      return .done [e]
partial_fixpoint

end

/-! ## Statements and headers -/

def change (p : PlainParser) (what : Parser.Change) : Work Stmt := do
  let name ← p.bindingName
  advance
  match what with
  | .assign op => return .assign name op (← p.expression 0)
  | .increment => return .increment name
  | .decrement => return .decrement name

def statement (p : PlainParser) : Work Stmt := do
  match ← peek with
  | some (.symbol .increment) =>
    advance
    return .increment (← p.bindingName)
  | some (.symbol .decrement) =>
    advance
    return .decrement (← p.bindingName)
  | some (.ident _) | some (.variable _) =>
    match (← peekNext).bind Parser.Change.ofToken? with
    | some what => p.change what
    | none => return .expr (← p.expression 0)
  | _ => return .expr (← p.expression 0)

def atSeparator : Work Bool := do
  match ← peek with
  | some (.symbol .semicolon) | some (.symbol .comma) => return true
  | _ => return false

def separatorsRound : Work (Round Unit Unit) := do
  if ← atSeparator then
    advance
    return .again ()
  else return .done ()

def skipSeparators (p : PlainParser) : Work Unit := do
  match ← separatorsRound with
  | .again () => p |>.skipSeparators
  | .done () => return ()
partial_fixpoint

def statementsRound (p : PlainParser) : Work (Round Stmt (List Stmt)) := do
  p.skipSeparators
  if (← peek).isNone then return .done []
  else
    let s ← p.statement
    if (← atSeparator) || (← peek).isNone then return .again s
    else p.unexpected (.symbol .semicolon)

def statements (p : PlainParser) : Work (List Stmt) := do
  match ← p.statementsRound with
  | .again s => return s :: (← p |>.statements)
  | .done ss => return ss
partial_fixpoint

def clauseRound (p : PlainParser) : Work (Round Stmt (List Stmt)) := do
  let s ← p.statement
  if ← eat .comma then return .again s else return .done [s]

def clauseTail (p : PlainParser) : Work (List Stmt) := do
  match ← p.clauseRound with
  | .again s => return s :: (← p |>.clauseTail)
  | .done ss => return ss
partial_fixpoint

def clause (p : PlainParser) : Work (List Stmt) := do
  match ← peek with
  | none | some (.symbol .semicolon) => return []
  | some _ => p.clauseTail

def condition (p : PlainParser) : Work (Option Expr) := do
  match ← peek with
  | some (.symbol .semicolon) =>
    p.expect .semicolon
    return none
  | _ =>
    let e ← p.expression 0
    p.expect .semicolon
    return some e

def wholeExpression (p : PlainParser) : Work Expr := do
  let e ← p.expression 0
  p.expectEnd
  return e

def foreachHeader (p : PlainParser) : Work ForeachHeader := do
  let iterable ← p.expression 0
  p.asWord
  let name ← p.bindingName
  if ← eat .fatArrow then
    let value ← p.bindingName
    p.expectEnd
    return ⟨iterable, some name, value⟩
  else
    p.expectEnd
    return ⟨iterable, none, name⟩

def forHeader (p : PlainParser) : Work ForHeader := do
  let first ← p.clause
  p.expect .semicolon
  let condition ← p.condition
  let step ← p.clause
  p.expectEnd
  return ⟨first, condition, step⟩

end PlainParser

end Stencil
