import Stencil.Proofs.Expr.Scanning
import Stencil.Proofs.Expr.Statements

/-!
# Texts that are read

What the four readers of texts make of a text depends only on the kinds of its tokens. So white space
around the text does not matter, and a scanner passes over it (`ReadsKinds`). The call of a function is
read where its arguments are (`parse_call_iff`).
-/

namespace Stencil
open Grammar Lexer Stencil.Parser

/-- What the reader makes of a text depends on the kinds of its tokens, which are settled. -/
def ReadsKinds {α : Type} (reader : List Char → Except Error α) : Prop :=
  ∀ {cs a}, reader cs = .ok a →
    ∃ ks, Lexes false cs ks ∧ Settled ks ∧ ∀ {ds}, Lexes false ds ks → reader ds = .ok a

theorem tokenize_bind_eq_ok_iff {α : Type} {a : α} {cs : List Char}
    {reader : List Token → Except Error α} {spells : List TokenKind → α → Prop}
    (grammar : ∀ ts, reader ts = .ok a ↔ spells (ts.map Token.kind) a) :
    (tokenize cs >>= reader) = .ok a ↔ ∃ ks, Lexes false cs ks ∧ spells ks a := by
  rw [bind_eq_ok]
  constructor
  · rintro ⟨ts, lexed, read⟩
    exact ⟨_, .of_tokensAt lexed, (grammar ts).1 read⟩
  · rintro ⟨ks, lexed, spelled⟩
    obtain ⟨ts, tokens, rfl⟩ := lexed.tokensAt 0
    exact ⟨ts, tokens, (grammar ts).2 spelled⟩

theorem Expr.parse_eq_ok_iff {cs : List Char} {e : Expr} :
    Expr.parse cs = .ok e ↔ ∃ ks, Lexes false cs ks ∧ Derives .choice ks e :=
  tokenize_bind_eq_ok_iff fun _ => wholeExpression_eq_ok_iff

theorem Stmt.parseAll_eq_ok_iff {cs : List Char} {ss : List Stmt} :
    Stmt.parseAll cs = .ok ss ↔ ∃ ks, Lexes false cs ks ∧ DerivesStmts ks ss :=
  tokenize_bind_eq_ok_iff fun _ => statements_eq_ok_iff

theorem ForeachHeader.parse_eq_ok_iff {cs : List Char} {header : ForeachHeader} :
    ForeachHeader.parse cs = .ok header ↔ ∃ ks, Lexes false cs ks ∧ DerivesForeach ks header :=
  tokenize_bind_eq_ok_iff fun _ => foreachHeader_eq_ok_iff

theorem ForHeader.parse_eq_ok_iff {cs : List Char} {header : ForHeader} :
    ForHeader.parse cs = .ok header ↔ ∃ ks, Lexes false cs ks ∧ DerivesFor ks header :=
  tokenize_bind_eq_ok_iff fun _ => forHeader_eq_ok_iff

theorem readsKinds_of_grammar {α : Type} {reader : List Char → Except Error α}
    {spells : List TokenKind → α → Prop}
    (grammar : ∀ {cs a}, reader cs = .ok a ↔ ∃ ks, Lexes false cs ks ∧ spells ks a)
    (settled : ∀ {ks a}, spells ks a → Settled ks) : ReadsKinds reader := by
  intro cs a read
  obtain ⟨ks, lexed, spelled⟩ := grammar.1 read
  exact ⟨ks, lexed, settled spelled, fun other => grammar.2 ⟨ks, other, spelled⟩⟩

theorem readsKinds_expr : ReadsKinds Expr.parse :=
  readsKinds_of_grammar Expr.parse_eq_ok_iff fun derived => derived.orderly.toSettled

theorem readsKinds_stmts : ReadsKinds Stmt.parseAll :=
  readsKinds_of_grammar Stmt.parseAll_eq_ok_iff DerivesStmts.settled

theorem readsKinds_foreach : ReadsKinds ForeachHeader.parse :=
  readsKinds_of_grammar ForeachHeader.parse_eq_ok_iff DerivesForeach.settled

theorem readsKinds_for : ReadsKinds ForHeader.parse :=
  readsKinds_of_grammar ForHeader.parse_eq_ok_iff DerivesFor.settled

namespace ReadsKinds

variable {α : Type} {reader : List Char → Except Error α} {cs : List Char} {a : α}

theorem trim (kinds : ReadsKinds reader) (read : reader cs = .ok a) :
    reader (Text.trim cs) = .ok a := by
  obtain ⟨ks, lexed, -, again⟩ := kinds read
  exact again lexed.trim

theorem through (kinds : ReadsKinds reader) (read : reader cs = .ok a) (depth : Nat) :
    Text.through depth .outside cs = some (depth, .outside) := by
  obtain ⟨ks, lexed, settled, -⟩ := kinds read
  exact lexed.through (settled.balanced depth)

theorem closeTag?_append (kinds : ReadsKinds reader) (read : reader cs = .ok a) (tail : List Char) :
    Text.closeTag? .outside (cs ++ tail) = Text.prefixed cs (Text.closeTag? .outside tail) := by
  obtain ⟨ks, lexed, settled, -⟩ := kinds read
  exact lexed.closeTag?_append settled.answered

end ReadsKinds

/-! ## Calls -/

variable {cs rest : List Char} {ks : List TokenKind} {name : String} {args : List Expr}

theorem lexeme_lone {c : Char} {s : Symbol}
    (lone : (c, s) ∈ [('.', .dot), ('(', .lParen), ('[', .lBracket), (']', .rBracket)])
    (rest : List Char) : lexeme false c rest = .ok ⟨.symbol s, [c], rest⟩ := by
  simp only [List.mem_cons, List.not_mem_nil, or_false, Prod.mk.injEq] at lone
  rcases lone with ⟨rfl, rfl⟩ | ⟨rfl, rfl⟩ | ⟨rfl, rfl⟩ | ⟨rfl, rfl⟩ <;>
  · match rest with
    | [] => rfl
    | [_] => rfl
    | _ :: _ :: _ => rfl

theorem lexeme_name {c : Char} (named : Text.isName (c :: cs) = true)
    (stops : ∀ d ∈ rest.head?, Text.isNameChar d = false) :
    lexeme false c (cs ++ rest) = .ok ⟨.ident (String.ofList (c :: cs)), c :: cs, rest⟩ := by
  have all := Text.isNameChar_of_isName named
  simp only [Text.isName, Bool.and_eq_true] at named
  obtain ⟨start, -⟩ := named
  have digit : Decimal.isDigit c = false := by
    refine Bool.eq_false_iff.2 fun digit => ?_
    have low := isNameStart_bounds start
    have high := isDigit_bounds digit
    omega
  unfold lexeme
  rw [Bool.false_and, if_neg Bool.false_ne_true, digit, if_neg Bool.false_ne_true, if_pos start,
    ← List.cons_append, word_names all stops]

theorem lexes_call_iff (named : Text.isName name.toList = true) {kinds : List TokenKind} :
    Lexes false (name.toList ++ '(' :: rest) kinds ↔
      ∃ ks, Lexes false rest ks ∧ kinds = .ident name :: .symbol .lParen :: ks := by
  have opening : lexeme false '(' rest = .ok ⟨.symbol .lParen, ['('], rest⟩ :=
    lexeme_lone (by decide) rest
  cases spelled : name.toList with
  | nil =>
    rw [spelled] at named
    cases named
  | cons c cs =>
    rw [spelled] at named
    have front : lexeme false c (cs ++ '(' :: rest) = _ :=
      lexeme_name named (by rintro d ⟨⟩; rfl)
    rw [← spelled, String.ofList_toList] at front
    have solid := not_isSpace_of_isNameChar (Text.isNameChar_of_isName named c (List.mem_cons_self ..))
    constructor
    · intro h
      cases h with
      | space blank _ =>
        rw [solid] at blank
        cases blank
      | token _ read tail =>
        rw [List.append_eq, front] at read
        cases read
        cases tail with
        | space blank _ => cases blank
        | token _ read tail =>
          rw [show isDot (.ident name) = false from rfl, opening] at read
          cases read
          exact ⟨_, tail, rfl⟩
    · rintro ⟨ks, tail, rfl⟩
      exact .cons solid front (.cons rfl opening tail)

theorem Grammar.Derives.of_call {s : Stratum} {ks : List TokenKind} {e : Expr} (h : Derives s ks e)
    (call : e = .call name args) :
    (∃ ls, ks = .ident name :: .symbol .lParen :: (ls ++ [.symbol .rParen]) ∧ DerivesList ls args) ∨
      ∃ ls, ks = .symbol .lParen :: ls := by
  match h with
  | .looser h => exact h.of_call call
  | .joint joins _ _ => cases joins <;> cases call
  | .call _ list =>
    cases call
    exact .inl ⟨_, rfl, list⟩
  | .group _ => exact .inr ⟨_, rfl⟩
  | .choice .. | .fallback .. | .sign .. | .extension .. | .member .. | .subscript .. | .literal _
  | .dollarName _ | .bareName _ | .array _ => cases call

theorem parse_call_iff (named : Text.isName name.toList = true) (free : isKeyword name = false) :
    Expr.parse (name.toList ++ '(' :: (cs ++ [')'])) = .ok (.call name args) ↔
      ∃ ks, Lexes false cs ks ∧ DerivesList ks args := by
  have closing : Lexes false [')'] [.symbol .rParen] :=
    .cons rfl rfl .nil
  have ends : EndsToken [')'] := by
    rintro c ⟨⟩
    exact .inl rfl
  rw [Expr.parse_eq_ok_iff]
  constructor
  · rintro ⟨kinds, lexed, derived⟩
    obtain ⟨inner, tail, rfl⟩ := (lexes_call_iff named).1 lexed
    obtain ⟨ls, ms, arguments, last, rfl⟩ := tail.split ends (List.forall_mem_singleton.2 rfl)
    obtain ⟨ts, same, list⟩ | ⟨ts, other⟩ := derived.of_call rfl
    · cases last.unique closing
      cases List.append_cancel_right (List.cons.inj (List.cons.inj same).2).2
      exact ⟨_, arguments, list⟩
    · cases other
  · rintro ⟨ks, arguments, list⟩
    refine ⟨_, (lexes_call_iff named).2 ⟨_, arguments.append ends closing, rfl⟩, ?_⟩
    exact Derives.loosen (.call free list) (by decide)

end Stencil
