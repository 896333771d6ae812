namespace Stencil

inductive Symbol where
  | lParen
  | rParen
  | lBracket
  | rBracket
  | comma
  | dot
  | colon
  | semicolon
  | question
  | coalesce
  | plus
  | minus
  | star
  | slash
  | percent
  | tilde
  | bang
  | lt
  | le
  | gt
  | ge
  | eqEq
  | notEq
  | identical
  | notIdentical
  | andAnd
  | orOr
  | assign
  | plusAssign
  | minusAssign
  | tildeAssign
  | increment
  | decrement
  | fatArrow
  deriving DecidableEq, Repr

namespace Symbol

def spelling : Symbol → String
  | lParen => "("
  | rParen => ")"
  | lBracket => "["
  | rBracket => "]"
  | comma => ","
  | dot => "."
  | colon => ":"
  | semicolon => ";"
  | question => "?"
  | coalesce => "??"
  | plus => "+"
  | minus => "-"
  | star => "*"
  | slash => "/"
  | percent => "%"
  | tilde => "~"
  | bang => "!"
  | lt => "<"
  | le => "<="
  | gt => ">"
  | ge => ">="
  | eqEq => "=="
  | notEq => "!="
  | identical => "==="
  | notIdentical => "!=="
  | andAnd => "&&"
  | orOr => "||"
  | assign => "="
  | plusAssign => "+="
  | minusAssign => "-="
  | tildeAssign => "~="
  | increment => "++"
  | decrement => "--"
  | fatArrow => "=>"

def name : Symbol → String
  | lParen => "LParen"
  | rParen => "RParen"
  | lBracket => "LBracket"
  | rBracket => "RBracket"
  | comma => "Comma"
  | dot => "Dot"
  | colon => "Colon"
  | semicolon => "Semicolon"
  | question => "Question"
  | coalesce => "Coalesce"
  | plus => "Plus"
  | minus => "Minus"
  | star => "Star"
  | slash => "Slash"
  | percent => "Percent"
  | tilde => "Tilde"
  | bang => "Bang"
  | lt => "Lt"
  | le => "Le"
  | gt => "Gt"
  | ge => "Ge"
  | eqEq => "EqEq"
  | notEq => "NotEq"
  | identical => "Identical"
  | notIdentical => "NotIdentical"
  | andAnd => "AndAnd"
  | orOr => "OrOr"
  | assign => "Assign"
  | plusAssign => "PlusAssign"
  | minusAssign => "MinusAssign"
  | tildeAssign => "TildeAssign"
  | increment => "Increment"
  | decrement => "Decrement"
  | fatArrow => "FatArrow"

def ofThree? : Char → Char → Char → Option Symbol
  | '=', '=', '=' => some identical
  | '!', '=', '=' => some notIdentical
  | _, _, _ => none

def ofTwo? : Char → Char → Option Symbol
  | '=', '=' => some eqEq
  | '!', '=' => some notEq
  | '<', '=' => some le
  | '>', '=' => some ge
  | '&', '&' => some andAnd
  | '|', '|' => some orOr
  | '?', '?' => some coalesce
  | '=', '>' => some fatArrow
  | '+', '+' => some increment
  | '-', '-' => some decrement
  | '+', '=' => some plusAssign
  | '-', '=' => some minusAssign
  | '~', '=' => some tildeAssign
  | _, _ => none

def ofOne? : Char → Option Symbol
  | '(' => some lParen
  | ')' => some rParen
  | '[' => some lBracket
  | ']' => some rBracket
  | ',' => some comma
  | '.' => some dot
  | ':' => some colon
  | ';' => some semicolon
  | '?' => some question
  | '+' => some plus
  | '-' => some minus
  | '*' => some star
  | '/' => some slash
  | '%' => some percent
  | '~' => some tilde
  | '!' => some bang
  | '<' => some lt
  | '>' => some gt
  | '=' => some assign
  | _ => none

end Symbol

inductive TokenKind where
  | ident (name : String)
  | variable (name : String)
  /-- A word right after a dot: a key, a field name or an index. -/
  | segment (word : String)
  | int (n : Int64)
  | float (x : Float)
  | str (s : String)
  | symbol (s : Symbol)

structure Token where
  kind : TokenKind
  offset : Nat

/-- Words with a meaning of their own, which no variable can be bound to. -/
inductive Keyword where
  | true
  | false
  | null
  | and
  | or
  | not
  | as
  deriving DecidableEq, Repr

namespace Keyword

def ofText? (word : String) : Option Keyword :=
  if word = "true" then some .true
  else if word = "false" then some .false
  else if word = "null" then some .null
  else if word = "and" then some .and
  else if word = "or" then some .or
  else if word = "not" then some .not
  else if word = "as" then some .as
  else none

def text : Keyword → String
  | .true => "true"
  | .false => "false"
  | .null => "null"
  | .and => "and"
  | .or => "or"
  | .not => "not"
  | .as => "as"

theorem ofText?_text (k : Keyword) : ofText? k.text = some k := by
  cases k <;> rfl

theorem ofText?_eq_some_iff {word : String} {k : Keyword} :
    ofText? word = some k ↔ word = k.text := by
  constructor
  · unfold ofText?
    intro h
    repeat' split at h
    all_goals simp_all [text]
    all_goals subst h; rfl
  · rintro rfl
    exact ofText?_text k

end Keyword

def isKeyword (word : String) : Bool :=
  (Keyword.ofText? word).isSome

end Stencil
