import Stencil.Error
import Stencil.Expr.Infix
import Stencil.Expr.Lexer
import Stencil.Reading

/-!
Tokens to expressions, by precedence, and to statements and the headers of the two counted loops. Each
reader says in its type that it uses up tokens, so reading ends on every list of tokens.
-/

namespace Stencil.Parser

def refusal (stop : Nat) (what : Expected) : List Token → Error
  | [] => .malformed stop (.expected what none)
  | t :: _ => .malformed t.offset (.expected what (some t.kind))

def symbol? (s : Symbol) : (ts : List Token) → Option (Read Unit ts)
  | ⟨.symbol found, _⟩ :: rest => if found = s then some ⟨(), rest, by simp⟩ else none
  | _ => none

def symbol (stop : Nat) (s : Symbol) (ts : List Token) : Except Error (Read Unit ts) :=
  match symbol? s ts with
  | some read => .ok read
  | none => .error (refusal stop (.symbol s) ts)

def memberName (stop : Nat) : (ts : List Token) → Except Error (Read Segment ts)
  | ⟨.segment word, _⟩ :: rest => .ok ⟨Segment.ofText word, rest, by simp⟩
  | ⟨.ident word, _⟩ :: rest => .ok ⟨Segment.ofText word, rest, by simp⟩
  | ts => .error (refusal stop .memberName ts)

/-- A member of an expression. A member of a path makes a longer path. -/
def member : Expr → Segment → Expr
  | .path p, segment => .path ⟨p.root, p.segments ++ [segment]⟩
  | target, segment => .member target segment

def ending (stop : Nat) (ts : List Token) : Except Error Unit :=
  match ts with
  | [] => .ok ()
  | t :: rest => .error (refusal stop .ending (t :: rest))

mutual

/-- Read an expression whose operators have at least the level `least`. -/
def expression (stop least : Nat) (ts : List Token) : Except Error (Read Expr ts) := do
  let ⟨first, rest, _⟩ ← operand stop ts
  let ⟨whole, rest, _⟩ ← continuation stop least first rest
  return ⟨whole, rest, by omega⟩
termination_by (ts.length, 1)

def continuation (stop least : Nat) (left : Expr) (ts : List Token) :
    Except Error (Continued Expr ts) :=
  match ts with
  | [] => .ok ⟨left, [], by simp⟩
  | t :: rest =>
    match Infix.ofToken? t.kind with
    | none => .ok ⟨left, t :: rest, by simp⟩
    | some op =>
      if op.level < least then .ok ⟨left, t :: rest, by simp⟩
      else do
        let ⟨whole, rest, _⟩ ← application stop op left rest
        let ⟨whole, rest, _⟩ ← continuation stop least whole rest
        return ⟨whole, rest, by simp only [List.length_cons]; omega⟩
termination_by (ts.length, 0)

def application (stop : Nat) (op : Infix) (left : Expr) (ts : List Token) :
    Except Error (Read Expr ts) :=
  match op with
  | .conditional => do
    let ⟨yes, rest, _⟩ ← expression stop 0 ts
    let ⟨_, rest, _⟩ ← symbol stop .colon rest
    let ⟨no, rest, _⟩ ← expression stop Infix.conditionalLevel rest
    return ⟨.conditional left yes no, rest, by omega⟩
  | .logical op => do
    let ⟨right, rest, _⟩ ← expression stop op.rightLevel ts
    return ⟨.logical op left right, rest, by omega⟩
  | .binary op => do
    let ⟨right, rest, _⟩ ← expression stop op.rightLevel ts
    return ⟨.binary op left right, rest, by omega⟩
  | .member => do
    let ⟨segment, rest, _⟩ ← memberName stop ts
    return ⟨member left segment, rest, by omega⟩
  | .subscript => do
    let ⟨index, rest, _⟩ ← expression stop 0 ts
    let ⟨_, rest, _⟩ ← symbol stop .rBracket rest
    return ⟨.index left index, rest, by omega⟩
termination_by (ts.length, 2)

def operand (stop : Nat) (ts : List Token) : Except Error (Read Expr ts) :=
  match ts with
  | [] => .error (refusal stop .expression [])
  | t :: rest =>
    match t.kind with
    | .int n => .ok ⟨.literal (.int n), rest, by simp⟩
    | .float x => .ok ⟨.literal (.float x), rest, by simp⟩
    | .str s => .ok ⟨.literal (.string s), rest, by simp⟩
    | .variable name => .ok ⟨.path ⟨name, []⟩, rest, by simp⟩
    | .ident word =>
      match Keyword.ofText? word with
      | some .true => .ok ⟨.literal (.bool true), rest, by simp⟩
      | some .false => .ok ⟨.literal (.bool false), rest, by simp⟩
      | some .null => .ok ⟨.literal .null, rest, by simp⟩
      | some .not => do
        let ⟨e, rest, _⟩ ← expression stop UnaryOp.level rest
        return ⟨.unary .not e, rest, by simp only [List.length_cons]; omega⟩
      | some keyword => .error (.malformed t.offset (.unexpectedKeyword keyword))
      | none =>
        match symbol? .lParen rest with
        | some ⟨_, rest, _⟩ => do
          let ⟨args, rest, _⟩ ← items stop .rParen rest
          return ⟨.call word args, rest, by simp only [List.length_cons]; omega⟩
        | none => .ok ⟨.path ⟨word, []⟩, rest, by simp⟩
    | .symbol .bang => do
      let ⟨e, rest, _⟩ ← expression stop UnaryOp.level rest
      return ⟨.unary .not e, rest, by simp only [List.length_cons]; omega⟩
    | .symbol .minus => do
      let ⟨e, rest, _⟩ ← expression stop UnaryOp.level rest
      return ⟨.unary .neg e, rest, by simp only [List.length_cons]; omega⟩
    | .symbol .lParen => do
      let ⟨e, rest, _⟩ ← expression stop 0 rest
      let ⟨_, rest, _⟩ ← symbol stop .rParen rest
      return ⟨e, rest, by simp only [List.length_cons]; omega⟩
    | .symbol .lBracket => do
      let ⟨es, rest, _⟩ ← items stop .rBracket rest
      return ⟨.array es, rest, by simp only [List.length_cons]; omega⟩
    | _ => .error (refusal stop .expression (t :: rest))
termination_by (ts.length, 0)

/-- Read expressions between commas up to `close`. A comma may stand before `close`. -/
def items (stop : Nat) (close : Symbol) (ts : List Token) : Except Error (Read (List Expr) ts) :=
  match symbol? close ts with
  | some ⟨_, rest, _⟩ => .ok ⟨[], rest, by omega⟩
  | none => do
    let ⟨e, rest, _⟩ ← expression stop 0 ts
    match symbol? .comma rest with
    | some ⟨_, rest, _⟩ =>
      let ⟨es, rest, _⟩ ← items stop close rest
      return ⟨e :: es, rest, by omega⟩
    | none =>
      let ⟨_, rest, _⟩ ← symbol stop close rest
      return ⟨[e], rest, by omega⟩
termination_by (ts.length, 2)

end

def wholeExpression (stop : Nat) (ts : List Token) : Except Error Expr := do
  let ⟨e, rest, _⟩ ← expression stop 0 ts
  ending stop rest
  return e

def bindingName (stop : Nat) (ts : List Token) : Except Error (Read String ts) :=
  match ts with
  | ⟨.ident word, offset⟩ :: rest =>
    if isKeyword word then .error (refusal stop .variableName (⟨.ident word, offset⟩ :: rest))
    else .ok ⟨word, rest, by simp⟩
  | ⟨.variable name, _⟩ :: rest => .ok ⟨name, rest, by simp⟩
  | ts => .error (refusal stop .variableName ts)

inductive Change where
  | assign (op : AssignOp)
  | increment
  | decrement

def Change.ofToken? : TokenKind → Option Change
  | .symbol .assign => some (.assign .set)
  | .symbol .plusAssign => some (.assign .add)
  | .symbol .minusAssign => some (.assign .sub)
  | .symbol .tildeAssign => some (.assign .concat)
  | .symbol .increment => some .increment
  | .symbol .decrement => some .decrement
  | _ => none

def isNameToken : TokenKind → Bool
  | .ident _ | .variable _ => true
  | _ => false

def announced? : List Token → Option Change
  | name :: next :: _ => if isNameToken name.kind then Change.ofToken? next.kind else none
  | _ => none

def plainStatement (stop : Nat) (ts : List Token) : Except Error (Read Stmt ts) := do
  let ⟨e, rest, _⟩ ← expression stop 0 ts
  return ⟨.expr e, rest, by omega⟩

def change (stop : Nat) (what : Change) (ts : List Token) : Except Error (Read Stmt ts) := do
  let ⟨name, rest, _⟩ ← bindingName stop ts
  have := List.length_tail (l := rest)
  match what with
  | .assign op => do
    let ⟨e, rest, _⟩ ← expression stop 0 rest.tail
    return ⟨.assign name op e, rest, by omega⟩
  | .increment => return ⟨.increment name, rest.tail, by omega⟩
  | .decrement => return ⟨.decrement name, rest.tail, by omega⟩

def statement (stop : Nat) (ts : List Token) : Except Error (Read Stmt ts) :=
  match symbol? .increment ts, symbol? .decrement ts with
  | some ⟨_, rest, _⟩, _ => do
    let ⟨name, rest, _⟩ ← bindingName stop rest
    return ⟨.increment name, rest, by omega⟩
  | none, some ⟨_, rest, _⟩ => do
    let ⟨name, rest, _⟩ ← bindingName stop rest
    return ⟨.decrement name, rest, by omega⟩
  | none, none =>
    match announced? ts with
    | some what => change stop what ts
    | none => plainStatement stop ts

def isSeparator (t : Token) : Bool :=
  match t.kind with
  | .symbol .semicolon | .symbol .comma => true
  | _ => false

/-- Read statements between semicolons and commas until nothing is left. There may be any number of
these, also at both ends. -/
def statements (stop : Nat) (ts : List Token) : Except Error (List Stmt) :=
  match ts with
  | [] => .ok []
  | t :: rest =>
    if isSeparator t then statements stop rest
    else do
      let ⟨s, rest, shorter⟩ ← statement stop (t :: rest)
      match rest, shorter with
      | [], _ => return [s]
      | t :: rest, _ =>
        if isSeparator t then return s :: (← statements stop rest)
        else .error (refusal stop (.symbol .semicolon) (t :: rest))
termination_by ts.length
decreasing_by
  all_goals simp only [List.length_cons] at *
  all_goals omega

def clauseTail (stop : Nat) (ts : List Token) : Except Error (Read (List Stmt) ts) := do
  let ⟨s, rest, _⟩ ← statement stop ts
  match symbol? .comma rest with
  | some ⟨_, rest, _⟩ => do
    let ⟨more, rest, _⟩ ← clauseTail stop rest
    return ⟨s :: more, rest, by omega⟩
  | none => return ⟨[s], rest, by omega⟩
termination_by ts.length

def clause (stop : Nat) (ts : List Token) : Except Error (Continued (List Stmt) ts) :=
  match ts with
  | [] => .ok ⟨[], [], by simp⟩
  | t :: rest =>
    match symbol? .semicolon (t :: rest) with
    | some _ => .ok ⟨[], t :: rest, by simp⟩
    | none => do
      let ⟨ss, rest, _⟩ ← clauseTail stop (t :: rest)
      return ⟨ss, rest, by omega⟩

def condition (stop : Nat) (ts : List Token) : Except Error (Read (Option Expr) ts) :=
  match symbol? .semicolon ts with
  | some ⟨_, rest, _⟩ => .ok ⟨none, rest, by omega⟩
  | none => do
    let ⟨e, rest, _⟩ ← expression stop 0 ts
    let ⟨_, rest, _⟩ ← symbol stop .semicolon rest
    return ⟨some e, rest, by omega⟩

def asWord (stop : Nat) (ts : List Token) : Except Error (Read Unit ts) :=
  match ts with
  | ⟨.ident word, offset⟩ :: rest =>
    if Keyword.ofText? word = some .as then .ok ⟨(), rest, by simp⟩
    else .error (refusal stop .asWord (⟨.ident word, offset⟩ :: rest))
  | ts => .error (refusal stop .asWord ts)

def foreachHeader (stop : Nat) (ts : List Token) : Except Error ForeachHeader := do
  let ⟨iterable, rest, _⟩ ← expression stop 0 ts
  let ⟨_, rest, _⟩ ← asWord stop rest
  let ⟨name, rest, _⟩ ← bindingName stop rest
  match symbol? .fatArrow rest with
  | some ⟨_, rest, _⟩ =>
    let ⟨value, rest, _⟩ ← bindingName stop rest
    ending stop rest
    return ⟨iterable, some name, value⟩
  | none =>
    ending stop rest
    return ⟨iterable, none, name⟩

def forHeader (stop : Nat) (ts : List Token) : Except Error ForHeader := do
  let ⟨first, rest, _⟩ ← clause stop ts
  let ⟨_, rest, _⟩ ← symbol stop .semicolon rest
  let ⟨condition, rest, _⟩ ← condition stop rest
  let ⟨step, rest, _⟩ ← clause stop rest
  ending stop rest
  return ⟨first, condition, step⟩

end Stencil.Parser

namespace Stencil

def Expr.parse (cs : List Char) : Except Error Expr := do
  Parser.wholeExpression (Text.byteLength cs) (← Lexer.tokenize cs)

def Stmt.parseAll (cs : List Char) : Except Error (List Stmt) := do
  Parser.statements (Text.byteLength cs) (← Lexer.tokenize cs)

def ForeachHeader.parse (cs : List Char) : Except Error ForeachHeader := do
  Parser.foreachHeader (Text.byteLength cs) (← Lexer.tokenize cs)

def ForHeader.parse (cs : List Char) : Except Error ForHeader := do
  Parser.forHeader (Text.byteLength cs) (← Lexer.tokenize cs)

end Stencil
