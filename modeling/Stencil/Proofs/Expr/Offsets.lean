import Stencil.Proofs.InPlace.Lexing

/-!
# Offsets of headers

What is wrong with a header is at a place in it: at the front of one of its characters or at its end. The
tokens start at places, each reader leaves some of the tokens, and it complains about one of them or about
the end of the text (`At`).
-/

namespace Stencil
open Text

def Text.IsPlace (cs : List Char) (offset : Nat) : Prop :=
  ∃ front back, cs = front ++ back ∧ offset = byteLength front

def Problem.ofHeader : Problem → Bool
  | .missingVariableName | .unterminatedString | .unexpectedCharacter _ | .expected ..
  | .unexpectedKeyword _ => true
  | _ => false

/-- The error is about the text of a header, at an offset of this kind. -/
def Error.At (isPlace : Nat → Prop) (e : Error) : Prop :=
  ∃ offset problem, e = .malformed offset problem ∧ problem.ofHeader = true ∧ isPlace offset

/-! ## Tokens -/

namespace Lexer

theorem ofHeader_of_lexeme {afterDot : Bool} {c : Char} {cs : List Char} {problem : Problem}
    (h : lexeme afterDot c cs = .error problem) : problem.ofHeader = true := by
  unfold lexeme at h
  split at h
  · cases h
  split at h
  · cases h
  split at h
  · cases h
  split at h
  · split at h <;> cases h
    rfl
  split at h
  · split at h <;> cases h
    rfl
  · split at h <;> cases h
    rfl

theorem tokensAt_ensures (afterDot : Bool) (front cs : List Char) :
    Ensures (fun ts => ∀ t ∈ ts, IsPlace (front ++ cs) t.offset) (Error.At (IsPlace (front ++ cs)))
      (tokensAt afterDot (byteLength front) cs) := by
  generalize start : byteLength front = offset
  -- What stands before grows by the blanks and tokens that are read, and the whole text stays the same.
  fun_induction tokensAt afterDot offset cs generalizing front with
  | case1 => exact nofun
  | case2 _ offset c cs space ih =>
    have one : byteLength (front ++ [c]) = offset + 1 := by
      rw [byteLength_append, byteLength_cons, (isLow_of_isSpace c space).size, byteLength_nil, start]
    have later := ih (front ++ [c]) one
    rwa [List.append_assoc, List.singleton_append] at later
  | case3 _ offset c cs _ problem refused =>
    exact ⟨offset, problem, rfl, ofHeader_of_lexeme refused, front, c :: cs, rfl, start.symm⟩
  | case4 _ offset c cs _ found read ih =>
    obtain ⟨whole, -⟩ := lexeme_eq_append read
    have later := ih (front ++ found.text) (by rw [byteLength_append, start])
    rw [List.append_assoc, ← whole] at later
    refine Ensures.map (later.mono (fun ts each => ?_) fun _ bad => bad)
    rw [List.forall_mem_cons]
    exact ⟨⟨front, c :: cs, rfl, start.symm⟩, each⟩

theorem tokenize_ensures (cs : List Char) :
    Ensures (fun ts => ∀ t ∈ ts, IsPlace cs t.offset) (Error.At (IsPlace cs)) (tokenize cs) :=
  tokensAt_ensures false [] cs

end Lexer

/-! ## Readers -/

namespace Parser

variable {isPlace : Nat → Prop} {stop : Nat} {t : Token} {ts : List Token} {α β : Type}
  {also : β → Prop}

structure Placed (isPlace : Nat → Prop) (stop : Nat) (ts : List Token) : Prop where
  stop : isPlace stop
  token : ∀ t ∈ ts, isPlace t.offset

theorem Placed.head (h : Placed isPlace stop (t :: ts)) : isPlace t.offset :=
  h.token t (List.mem_cons_self ..)

theorem Placed.tail (h : Placed isPlace stop (t :: ts)) : Placed isPlace stop ts :=
  ⟨h.stop, fun u mem => h.token u (List.mem_cons_of_mem t mem)⟩

/-- The reader leaves tokens at places, or complains about a place. -/
def Keeps (isPlace : Nat → Prop) (stop : Nat) (result : Except Error (Read α ts)) : Prop :=
  Ensures (fun r => Placed isPlace stop r.rest) (Error.At isPlace) result

def KeepsOn (isPlace : Nat → Prop) (stop : Nat) (result : Except Error (Continued α ts)) : Prop :=
  Ensures (fun r => Placed isPlace stop r.rest) (Error.At isPlace) result

theorem Keeps.bind {result : Except Error (Read α ts)} {more : Read α ts → Except Error β}
    (h : Keeps isPlace stop result) (then_ : ∀ value rest shorter, Placed isPlace stop rest →
      Ensures also (Error.At isPlace) (more ⟨value, rest, shorter⟩)) :
    Ensures also (Error.At isPlace) (result >>= more) :=
  Ensures.bind h fun r => then_ r.value r.rest r.shorter

theorem KeepsOn.bind {result : Except Error (Continued α ts)} {more : Continued α ts → Except Error β}
    (h : KeepsOn isPlace stop result) (then_ : ∀ value rest bounded, Placed isPlace stop rest →
      Ensures also (Error.At isPlace) (more ⟨value, rest, bounded⟩)) :
    Ensures also (Error.At isPlace) (result >>= more) :=
  Ensures.bind h fun r => then_ r.value r.rest r.bounded

theorem refusal_at (what : Expected) (h : Placed isPlace stop ts) :
    (refusal stop what ts).At isPlace := by
  cases ts with
  | nil => exact ⟨_, _, rfl, rfl, h.stop⟩
  | cons t ts => exact ⟨_, _, rfl, rfl, h.head⟩

theorem placed_of_symbol? {s : Symbol} {u : Unit} {rest : List Token} {shorter}
    (h : Placed isPlace stop ts) (found : symbol? s ts = some ⟨u, rest, shorter⟩) :
    Placed isPlace stop rest := by
  obtain ⟨offset, rfl⟩ := symbol?_eq_some found
  exact h.tail

theorem symbol_keeps (s : Symbol) (h : Placed isPlace stop ts) :
    Keeps isPlace stop (symbol stop s ts) := by
  unfold symbol
  split
  · next read found => exact placed_of_symbol? h found
  · exact refusal_at _ h

theorem memberName_keeps (h : Placed isPlace stop ts) : Keeps isPlace stop (memberName stop ts) := by
  unfold memberName
  split
  · exact h.tail
  · exact h.tail
  · exact refusal_at _ h

theorem bindingName_keeps (h : Placed isPlace stop ts) : Keeps isPlace stop (bindingName stop ts) := by
  unfold bindingName
  split
  · split
    · exact refusal_at _ h
    · exact h.tail
  · exact h.tail
  · exact refusal_at _ h

theorem asWord_keeps (h : Placed isPlace stop ts) : Keeps isPlace stop (asWord stop ts) := by
  unfold asWord
  split
  · split
    · exact h.tail
    · exact refusal_at _ h
  · exact refusal_at _ h

theorem ending_ensures (h : Placed isPlace stop ts) :
    Ensures (fun _ => True) (Error.At isPlace) (ending stop ts) := by
  cases ts with
  | nil => exact trivial
  | cons t ts => exact refusal_at _ h

mutual

theorem expression_keeps (least : Nat) {ts : List Token} (h : Placed isPlace stop ts) :
    Keeps isPlace stop (expression stop least ts) := by
  rw [expression]
  refine (operand_keeps h).bind fun first rest _ h => ?_
  refine (continuation_keeps least first h).bind fun whole rest _ h => ?_
  exact h
termination_by (ts.length, 1)

theorem continuation_keeps (least : Nat) (left : Expr) {ts : List Token} (h : Placed isPlace stop ts) :
    KeepsOn isPlace stop (continuation stop least left ts) := by
  match ts with
  | [] =>
    rw [continuation]
    exact h
  | t :: ts =>
    rw [continuation]
    split
    · exact h
    · split
      · exact h
      · refine (application_keeps _ left h.tail).bind fun whole rest _ h => ?_
        refine (continuation_keeps least whole h).bind fun whole rest _ h => ?_
        exact h
termination_by (ts.length, 0)

theorem application_keeps (op : Infix) (left : Expr) {ts : List Token} (h : Placed isPlace stop ts) :
    Keeps isPlace stop (application stop op left ts) := by
  rw [application.eq_def]
  cases op with
  | conditional =>
    refine (expression_keeps 0 h).bind fun yes rest _ h => ?_
    refine (symbol_keeps .colon h).bind fun _ rest _ h => ?_
    refine (expression_keeps _ h).bind fun no rest _ h => ?_
    exact h
  | logical op =>
    refine (expression_keeps _ h).bind fun right rest _ h => ?_
    exact h
  | binary op =>
    refine (expression_keeps _ h).bind fun right rest _ h => ?_
    exact h
  | member =>
    refine (memberName_keeps h).bind fun segment rest _ h => ?_
    exact h
  | subscript =>
    refine (expression_keeps 0 h).bind fun index rest _ h => ?_
    refine (symbol_keeps .rBracket h).bind fun _ rest _ h => ?_
    exact h
termination_by (ts.length, 2)

theorem operand_keeps {ts : List Token} (h : Placed isPlace stop ts) :
    Keeps isPlace stop (operand stop ts) := by
  match ts with
  | [] =>
    rw [operand]
    exact refusal_at _ h
  | ⟨kind, offset⟩ :: ts =>
    rw [operand.eq_def]
    match kind with
    | .int _ | .float _ | .str _ | .variable _ => exact h.tail
    | .segment _ => exact refusal_at _ h
    | .ident word =>
      dsimp only
      split
      · exact h.tail
      · exact h.tail
      · exact h.tail
      · refine (expression_keeps _ h.tail).bind fun e rest _ h => ?_
        exact h
      · exact ⟨_, _, rfl, rfl, h.head⟩
      · split
        · next found =>
          refine (items_keeps .rParen (placed_of_symbol? h.tail found)).bind fun args rest _ h => ?_
          exact h
        · exact h.tail
    | .symbol s =>
      cases s with
      | bang | minus =>
        refine (expression_keeps _ h.tail).bind fun e rest _ h => ?_
        exact h
      | lParen =>
        refine (expression_keeps 0 h.tail).bind fun e rest _ h => ?_
        refine (symbol_keeps .rParen h).bind fun _ rest _ h => ?_
        exact h
      | lBracket =>
        refine (items_keeps .rBracket h.tail).bind fun es rest _ h => ?_
        exact h
      | _ => exact refusal_at _ h
termination_by (ts.length, 0)

theorem items_keeps (close : Symbol) {ts : List Token} (h : Placed isPlace stop ts) :
    Keeps isPlace stop (items stop close ts) := by
  rw [items]
  split
  · next found => exact placed_of_symbol? h found
  · refine (expression_keeps 0 h).bind fun e rest _ h => ?_
    dsimp only
    split
    · next found =>
      refine (items_keeps close (placed_of_symbol? h found)).bind fun es rest _ h => ?_
      exact h
    · refine (symbol_keeps close h).bind fun _ rest _ h => ?_
      exact h
termination_by (ts.length, 2)

end

theorem wholeExpression_ensures (h : Placed isPlace stop ts) :
    Ensures (fun _ => True) (Error.At isPlace) (wholeExpression stop ts) := by
  unfold wholeExpression
  refine (expression_keeps 0 h).bind fun e rest _ h => ?_
  exact (ending_ensures h).bind fun _ _ => trivial

/-! ## Readers of statements -/

theorem change_keeps (what : Change) (h : Placed isPlace stop ts) :
    Keeps isPlace stop (change stop what ts) := by
  unfold change
  refine (bindingName_keeps h).bind fun name rest _ h => ?_
  have after : Placed isPlace stop rest.tail :=
    ⟨h.stop, fun t mem => h.token t (List.mem_of_mem_tail mem)⟩
  cases what with
  | assign op =>
    refine (expression_keeps 0 after).bind fun e rest _ h => ?_
    exact h
  | increment => exact after
  | decrement => exact after

theorem statement_keeps (h : Placed isPlace stop ts) : Keeps isPlace stop (statement stop ts) := by
  unfold statement
  split
  · next found =>
    refine (bindingName_keeps (placed_of_symbol? h found)).bind fun name rest _ h => ?_
    exact h
  · next found =>
    refine (bindingName_keeps (placed_of_symbol? h found)).bind fun name rest _ h => ?_
    exact h
  · split
    · exact change_keeps _ h
    · refine (expression_keeps 0 h).bind fun e rest _ h => ?_
      exact h

theorem statements_ensures {ts : List Token} (h : Placed isPlace stop ts) :
    Ensures (fun _ => True) (Error.At isPlace) (statements stop ts) := by
  match ts with
  | [] =>
    rw [statements]
    exact trivial
  | t :: ts =>
    rw [statements]
    split
    · exact statements_ensures h.tail
    · refine (statement_keeps h).bind fun s rest shorter h => ?_
      cases rest with
      | nil => exact trivial
      | cons u rest =>
        dsimp only
        split
        · exact (statements_ensures h.tail).bind fun _ _ => trivial
        · exact refusal_at _ h
termination_by ts.length
decreasing_by
  all_goals simp only [List.length_cons] at *
  all_goals omega

theorem clauseTail_keeps {ts : List Token} (h : Placed isPlace stop ts) :
    Keeps isPlace stop (clauseTail stop ts) := by
  rw [clauseTail]
  refine (statement_keeps h).bind fun s rest _ h => ?_
  dsimp only
  split
  · next found =>
    refine (clauseTail_keeps (placed_of_symbol? h found)).bind fun more rest _ h => ?_
    exact h
  · exact h
termination_by ts.length

theorem clause_keepsOn (h : Placed isPlace stop ts) : KeepsOn isPlace stop (clause stop ts) := by
  unfold clause
  split
  · exact h
  · split
    · exact h
    · refine (clauseTail_keeps h).bind fun ss rest _ h => ?_
      exact h

theorem condition_keeps (h : Placed isPlace stop ts) : Keeps isPlace stop (condition stop ts) := by
  unfold condition
  split
  · next found => exact placed_of_symbol? h found
  · refine (expression_keeps 0 h).bind fun e rest _ h => ?_
    refine (symbol_keeps .semicolon h).bind fun _ rest _ h => ?_
    exact h

theorem foreachHeader_ensures (h : Placed isPlace stop ts) :
    Ensures (fun _ => True) (Error.At isPlace) (foreachHeader stop ts) := by
  unfold foreachHeader
  refine (expression_keeps 0 h).bind fun iterable rest _ h => ?_
  refine (asWord_keeps h).bind fun _ rest _ h => ?_
  refine (bindingName_keeps h).bind fun name rest _ h => ?_
  dsimp only
  split
  · next found =>
    refine (bindingName_keeps (placed_of_symbol? h found)).bind fun value rest _ h => ?_
    exact (ending_ensures h).bind fun _ _ => trivial
  · exact (ending_ensures h).bind fun _ _ => trivial

theorem forHeader_ensures (h : Placed isPlace stop ts) :
    Ensures (fun _ => True) (Error.At isPlace) (forHeader stop ts) := by
  unfold forHeader
  refine (clause_keepsOn h).bind fun first rest _ h => ?_
  refine (symbol_keeps .semicolon h).bind fun _ rest _ h => ?_
  refine (condition_keeps h).bind fun condition rest _ h => ?_
  refine (clause_keepsOn h).bind fun step rest _ h => ?_
  exact (ending_ensures h).bind fun _ _ => trivial

theorem tokenize_bind_ensures {reader : Nat → List Token → Except Error α} (cs : List Char)
    (places : ∀ {ts}, Placed (IsPlace cs) (byteLength cs) ts →
      Ensures (fun _ => True) (Error.At (IsPlace cs)) (reader (byteLength cs) ts)) :
    Ensures (fun _ => True) (Error.At (IsPlace cs)) (Lexer.tokenize cs >>= reader (byteLength cs)) := by
  refine (Lexer.tokenize_ensures cs).bind fun ts each => places ⟨?_, each⟩
  exact ⟨cs, [], (List.append_nil cs).symm, rfl⟩

end Parser

open Stencil.Parser

theorem Expr.parse_ensures (cs : List Char) :
    Ensures (fun _ => True) (Error.At (IsPlace cs)) (Expr.parse cs) :=
  tokenize_bind_ensures cs wholeExpression_ensures

theorem Stmt.parseAll_ensures (cs : List Char) :
    Ensures (fun _ => True) (Error.At (IsPlace cs)) (Stmt.parseAll cs) :=
  tokenize_bind_ensures cs statements_ensures

theorem ForeachHeader.parse_ensures (cs : List Char) :
    Ensures (fun _ => True) (Error.At (IsPlace cs)) (ForeachHeader.parse cs) :=
  tokenize_bind_ensures cs foreachHeader_ensures

theorem ForHeader.parse_ensures (cs : List Char) :
    Ensures (fun _ => True) (Error.At (IsPlace cs)) (ForHeader.parse cs) :=
  tokenize_bind_ensures cs forHeader_ensures

end Stencil
