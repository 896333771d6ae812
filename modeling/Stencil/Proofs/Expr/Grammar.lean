import Stencil.Expr.Infix

/-!
# The grammar of expressions

One stratum for each level of precedence. A derivation ties the kinds of a list of tokens to the
expression that they spell; it does not mention levels or readers. `Precedence` proves that the reader
of expressions follows exactly these rules.
-/

namespace Stencil.Grammar

/-- The strata of expressions, from the loosest to the tightest. -/
inductive Stratum where
  | choice
  | fallback
  | disjunction
  | conjunction
  | equality
  | comparison
  | concatenation
  | sum
  | product
  | signed
  | access
  | atom
  deriving DecidableEq, Repr

def Stratum.tighter : Stratum → Stratum
  | choice => fallback
  | fallback => disjunction
  | disjunction => conjunction
  | conjunction => equality
  | equality => comparison
  | comparison => concatenation
  | concatenation => sum
  | sum => product
  | product => signed
  | signed => access
  | access => atom
  | atom => atom

inductive LeftOp where
  | logical (op : LogicalOp)
  | binary (op : BinaryOp)

def LeftOp.join : LeftOp → Expr → Expr → Expr
  | logical op, l, r => .logical op l r
  | binary op, l, r => .binary op l r

/-- The tokens that join the operands of a stratum whose operators group to the left. -/
inductive Joint : Stratum → TokenKind → LeftOp → Prop
  | orSign : Joint .disjunction (.symbol .orOr) (.logical .or)
  | orWord : Joint .disjunction (.ident "or") (.logical .or)
  | andSign : Joint .conjunction (.symbol .andAnd) (.logical .and)
  | andWord : Joint .conjunction (.ident "and") (.logical .and)
  | eq : Joint .equality (.symbol .eqEq) (.binary .eq)
  | notEq : Joint .equality (.symbol .notEq) (.binary .notEq)
  | identical : Joint .equality (.symbol .identical) (.binary .identical)
  | notIdentical : Joint .equality (.symbol .notIdentical) (.binary .notIdentical)
  | lt : Joint .comparison (.symbol .lt) (.binary .lt)
  | le : Joint .comparison (.symbol .le) (.binary .le)
  | gt : Joint .comparison (.symbol .gt) (.binary .gt)
  | ge : Joint .comparison (.symbol .ge) (.binary .ge)
  | concat : Joint .concatenation (.symbol .tilde) (.binary .concat)
  | add : Joint .sum (.symbol .plus) (.binary .add)
  | sub : Joint .sum (.symbol .minus) (.binary .sub)
  | mul : Joint .product (.symbol .star) (.binary .mul)
  | div : Joint .product (.symbol .slash) (.binary .div)
  | mod : Joint .product (.symbol .percent) (.binary .mod)

inductive Sign : TokenKind → UnaryOp → Prop
  | bang : Sign (.symbol .bang) .not
  | notWord : Sign (.ident "not") .not
  | minus : Sign (.symbol .minus) .neg

inductive Literal : TokenKind → Value → Prop
  | int (n : Int64) : Literal (.int n) (.int n)
  | float (x : Float) : Literal (.float x) (.float x)
  | str (s : String) : Literal (.str s) (.string s)
  | true : Literal (.ident "true") (.bool true)
  | false : Literal (.ident "false") (.bool false)
  | null : Literal (.ident "null") .null

inductive MemberName : TokenKind → String → Prop
  | segment (word : String) : MemberName (.segment word) word
  | ident (word : String) : MemberName (.ident word) word

mutual

/-- The tokens spell the expression, as an expression of the stratum. -/
inductive Derives : Stratum → List TokenKind → Expr → Prop
  | looser {s ts e} : Derives s.tighter ts e → Derives s ts e
  | choice {cs ys ns c y n} : Derives .fallback cs c → Derives .choice ys y → Derives .choice ns n →
      Derives .choice (cs ++ .symbol .question :: (ys ++ .symbol .colon :: ns)) (.conditional c y n)
  | fallback {ls rs l r} : Derives .disjunction ls l → Derives .fallback rs r →
      Derives .fallback (ls ++ .symbol .coalesce :: rs) (.logical .coalesce l r)
  | joint {s k op ls rs l r} : Joint s k op → Derives s ls l → Derives s.tighter rs r →
      Derives s (ls ++ k :: rs) (op.join l r)
  | sign {k op ts e} : Sign k op → Derives .signed ts e → Derives .signed (k :: ts) (.unary op e)
  | extension {ts p k word} : Derives .access ts (.path p) → MemberName k word →
      Derives .access (ts ++ [.symbol .dot, k]) (.path ⟨p.root, p.segments ++ [.ofText word]⟩)
  | member {ts e k word} : Derives .access ts e → (∀ p, e ≠ .path p) → MemberName k word →
      Derives .access (ts ++ [.symbol .dot, k]) (.member e (.ofText word))
  | subscript {ts us e i} : Derives .access ts e → Derives .choice us i →
      Derives .access (ts ++ .symbol .lBracket :: (us ++ [.symbol .rBracket])) (.index e i)
  | literal {k v} : Literal k v → Derives .atom [k] (.literal v)
  | dollarName (name) : Derives .atom [.variable name] (.path ⟨name, []⟩)
  | bareName {word} : isKeyword word = false → Derives .atom [.ident word] (.path ⟨word, []⟩)
  | call {word ts es} : isKeyword word = false → DerivesList ts es →
      Derives .atom (.ident word :: .symbol .lParen :: (ts ++ [.symbol .rParen])) (.call word es)
  | group {ts e} : Derives .choice ts e →
      Derives .atom (.symbol .lParen :: (ts ++ [.symbol .rParen])) e
  | array {ts es} : DerivesList ts es →
      Derives .atom (.symbol .lBracket :: (ts ++ [.symbol .rBracket])) (.array es)

inductive DerivesList : List TokenKind → List Expr → Prop
  | nil : DerivesList [] []
  | last {ts e} : Derives .choice ts e → DerivesList ts [e]
  | comma {ts us e es} : Derives .choice ts e → DerivesList us es →
      DerivesList (ts ++ .symbol .comma :: us) (e :: es)

end

def beginsOperand : TokenKind → Bool
  | .int _ | .float _ | .str _ | .variable _ | .ident _ => true
  | .symbol s => s = .bang ∨ s = .minus ∨ s = .lParen ∨ s = .lBracket
  | .segment _ => false

def Begun (ts : List TokenKind) : Prop :=
  ∃ k ks, ts = k :: ks ∧ beginsOperand k = true

theorem Begun.append {ts : List TokenKind} (us : List TokenKind) (h : Begun ts) :
    Begun (ts ++ us) := by
  obtain ⟨k, ks, rfl, begun⟩ := h
  exact ⟨k, ks ++ us, rfl, begun⟩

theorem Derives.begun {s : Stratum} {ts : List TokenKind} {e : Expr} : Derives s ts e → Begun ts
  | .looser h => h.begun
  | .choice h _ _ => h.begun.append _
  | .fallback h _ => h.begun.append _
  | .joint _ h _ => h.begun.append _
  | .sign h _ => by cases h <;> exact ⟨_, _, rfl, rfl⟩
  | .extension h _ => h.begun.append _
  | .member h _ _ => h.begun.append _
  | .subscript h _ => h.begun.append _
  | .literal h => by cases h <;> exact ⟨_, _, rfl, rfl⟩
  | .dollarName _ => ⟨_, _, rfl, rfl⟩
  | .bareName _ => ⟨_, _, rfl, rfl⟩
  | .call _ _ => ⟨_, _, rfl, rfl⟩
  | .group _ => ⟨_, _, rfl, rfl⟩
  | .array _ => ⟨_, _, rfl, rfl⟩

end Stencil.Grammar
