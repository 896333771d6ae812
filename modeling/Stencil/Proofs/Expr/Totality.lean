import Mathlib
import Stencil.Proofs.Expr.Following

/-!
# Reading comes to an end

The readers of `Stencil.Parser` take the tokens that are left as a decreasing measure, and so their types
do not allow a reader that stands still. Here the same is found of readers that are free to go on forever:
since each of them follows a reader with the measure, it ends, and it fails or uses up a token. The clause
of a `for` alone may stand still, before a semicolon and at the end (`clause_standstill`). The main
statement (`reading_ends`) has this of all readers and of each round of their loops, and has the outcome of
the four entry points on every list of tokens and on every text.
-/

namespace Stencil.PlainParser

variable {α β ρ : Type} {x : Work α} {ts us rest : List Token} {p : PlainParser}

/-! ## Progress -/

/-- The work ends, and if it does not fail, its value and the tokens that it leaves are good. -/
def Ends (good : α → List Token → Prop) (x : Work α) (ts : List Token) : Prop :=
  ∃ outcome, x ts = some outcome ∧ ∀ a rest, outcome = .ok (a, rest) → good a rest

def Advances (x : Work α) : Prop :=
  ∀ ts, Ends (fun _ rest => rest.length < ts.length) x ts

/-- A round of a loop ends, and it fails, ends the loop or uses up a token. -/
def Turns (x : Work (Round α β)) : Prop :=
  ∀ ts, Ends (fun round rest => ∀ a, round = .again a → rest.length < ts.length) x ts

namespace Ends

variable {good : α → List Token → Prop} {also : β → List Token → Prop} {f : α → Work β} {a : α}

theorem pure (h : good a ts) : Ends good (pure a) ts :=
  ⟨_, rfl, fun _ _ same => by cases same; exact h⟩

theorem bind (h : Ends good x ts) (next : ∀ a rest, good a rest → Ends also (f a) rest) :
    Ends also (x >>= f) ts := by
  obtain ⟨outcome, done, fine⟩ := h
  cases outcome with
  | error e => exact ⟨.error e, bind_error done, fun _ _ same => by cases same⟩
  | ok p =>
    obtain ⟨last, ended, ok⟩ := next p.1 p.2 (fine _ _ rfl)
    exact ⟨last, (bind_ok done).trans ended, ok⟩

theorem last {b : β} :
    Ends (fun (round : Round α β) rest => ∀ a, round = .again a → rest.length < ts.length)
      (Pure.pure (.done b)) us :=
  .pure fun _ same => by cases same

theorem refused {what : Expected} : Ends good (p.unexpected what) ts :=
  ⟨_, rfl, fun _ _ same => by cases same⟩

end Ends

theorem ends_of_follows {view : ρ → α × List Token} {outcome : Except Error ρ}
    {good : α → List Token → Prop} (h : Follows view x ts outcome)
    (fine : ∀ r, good (view r).1 (view r).2) : Ends good x ts := by
  refine ⟨_, h, fun a rest same => ?_⟩
  cases outcome with
  | error e => cases same
  | ok r =>
    have here : view r = (a, rest) := Except.ok.inj same
    have held := fine r
    rwa [here] at held

theorem advances_of_follows {model : (ts : List Token) → Except Error (Read α ts)}
    (h : ∀ ts, Follows ofRead x ts (model ts)) : Advances x :=
  fun ts => ends_of_follows (h ts) fun r => r.shorter

theorem advances_expression (least : Nat) : Advances (p.expression least) :=
  advances_of_follows (expression_follows least)

theorem advances_statement : Advances p.statement :=
  advances_of_follows statement_follows

theorem advances_application (op : Infix) (left : Expr) : Advances (p.application op left) := by
  intro ts
  have follows : Follows ofRead (p.application op left) ts (Parser.application p.stop op left ts.tail) := by
    rw [application]
    exact .step (a := ()) rfl (rightSide_follows op left ts.tail)
  refine ends_of_follows follows fun r => ?_
  have fewer := r.shorter
  rw [List.length_tail] at fewer
  exact Nat.lt_of_lt_of_le fewer (Nat.sub_le ..)

theorem advances_unary (op : UnaryOp) : Advances (p.unary op) := by
  intro ts
  rw [unary]
  exact (advances_expression UnaryOp.level ts).bind fun _ _ fewer => .pure fewer

theorem ends_peek (ts : List Token) : Ends (fun _ rest => rest = ts) peek ts :=
  ⟨_, rfl, fun _ _ same => by cases same; rfl⟩

theorem ends_advance (inside : ts ≠ []) : Ends (fun _ rest => rest.length < ts.length) advance ts := by
  cases ts with
  | nil => exact absurd rfl inside
  | cons t ts => exact ⟨_, rfl, fun _ _ same => by cases same; exact Nat.lt_succ_self _⟩

theorem ends_atSeparator (ts : List Token) :
    Ends (fun found rest => rest = ts ∧ (found = true → ts ≠ [])) atSeparator ts :=
  ⟨_, atSeparator_eq ts, fun found rest same => by
    cases same
    exact ⟨rfl, fun found none => by simp [none] at found⟩⟩

theorem ends_eat (s : Symbol) (ts : List Token) :
    Ends (fun found rest => if found then rest.length < ts.length else rest = ts) (eat s) ts := by
  cases found : Parser.symbol? s ts with
  | some read => exact ⟨_, eat_some found, fun _ _ same => by cases same; exact read.shorter⟩
  | none => exact ⟨_, eat_none found, fun _ _ same => by cases same; rfl⟩

theorem turns_continuationRound (least : Nat) (left : Expr) :
    Turns (p.continuationRound least left) := by
  intro ts
  rw [continuationRound]
  refine (ends_peek ts).bind fun kind rest same => ?_
  obtain rfl : rest = ts := same
  cases kind.bind Infix.ofToken? with
  | none => exact .last
  | some op =>
    show Ends _ (if _ then _ else _) _
    split
    · exact .last
    · exact (advances_application op left rest).bind fun _ _ fewer => .pure fun _ _ => fewer

theorem turns_itemsRound (close : Symbol) : Turns (p.itemsRound close) := by
  intro ts
  rw [itemsRound]
  refine (ends_eat close ts).bind fun found rest read => ?_
  cases found with
  | true => exact .last
  | false =>
    obtain rfl : rest = ts := read
    refine (advances_expression 0 rest).bind fun e left fewer => ?_
    refine (ends_eat .comma left).bind fun found last read => ?_
    cases found with
    | true => exact .pure fun _ _ => Nat.lt_trans read fewer
    | false =>
      exact (advances_of_follows (expect_follows close) last).bind fun _ _ _ => .last

theorem turns_clauseRound : Turns p.clauseRound := by
  intro ts
  rw [clauseRound]
  refine (advances_statement ts).bind fun s left fewer => ?_
  refine (ends_eat .comma left).bind fun found last read => ?_
  cases found with
  | true => exact .pure fun _ _ => Nat.lt_trans read fewer
  | false => exact .last

theorem turns_separatorsRound : Turns separatorsRound := by
  intro ts
  rw [separatorsRound]
  refine (ends_atSeparator ts).bind fun found rest read => ?_
  obtain ⟨rfl, inside⟩ := read
  cases found with
  | true => exact (ends_advance (inside rfl)).bind fun _ _ fewer => .pure fun _ _ => fewer
  | false => exact .last

theorem turns_statementsRound : Turns p.statementsRound := by
  intro ts
  rw [statementsRound]
  have skipped : Ends (fun _ rest => rest.length ≤ ts.length) p.skipSeparators ts :=
    ⟨_, skipSeparators_eq ts, fun _ _ same => by
      cases same
      exact (List.dropWhile_suffix _).length_le⟩
  refine skipped.bind fun _ left shorter => ?_
  refine (ends_peek left).bind fun kind rest same => ?_
  obtain rfl : rest = left := same
  split
  · exact .last
  · refine (advances_statement rest).bind fun s last fewer => ?_
    refine (ends_atSeparator last).bind fun found _ read => ?_
    rw [read.1]
    refine (ends_peek last).bind fun kind _ same => ?_
    rw [same]
    split
    · exact .pure fun _ _ => Nat.lt_of_lt_of_le fewer shorter
    · exact .refused

def ClauseOver (ts : List Token) : Prop :=
  ts = [] ∨ ∃ offset rest, ts = ⟨.symbol .semicolon, offset⟩ :: rest

theorem clause_of_over (done : ClauseOver ts) : p.clause ts = some (.ok ([], ts)) := by
  obtain rfl | ⟨offset, rest, rfl⟩ := done <;> rfl

theorem ends_clause (going : ¬ClauseOver ts) :
    Ends (fun _ rest => rest.length < ts.length) p.clause ts := by
  suffices same : p.clause ts = p.clauseTail ts by
    have tail : Advances p.clauseTail := advances_of_follows clauseTail_follows
    obtain ⟨outcome, done, fewer⟩ := tail ts
    exact ⟨outcome, same.trans done, fewer⟩
  match ts with
  | [] => exact absurd (.inl rfl) going
  | ⟨kind, offset⟩ :: ts =>
    rw [clause]
    refine (bind_ok (a := some kind) rfl).trans ?_
    cases kind with
    | symbol s =>
      cases s with
      | semicolon => exact absurd (.inr ⟨offset, ts, rfl⟩) going
      | _ => rfl
    | _ => rfl

/-- The readers fail or use up a token, except for a clause that is over, and so do the rounds of the
loops that are not the last. -/
structure Progress (p : PlainParser) : Prop where
  expression (least : Nat) : Advances (p.expression least)
  operand : Advances p.operand
  application (op : Infix) (left : Expr) : Advances (p.application op left)
  unary (op : UnaryOp) : Advances (p.unary op)
  items (close : Symbol) : Advances (p.items close)
  statement : Advances p.statement
  emptyClause : ∀ ts, ClauseOver ts → p.clause ts = some (.ok ([], ts))
  clause : ∀ ts, ¬ClauseOver ts → Ends (fun _ rest => rest.length < ts.length) p.clause ts
  continuationRound (least : Nat) (left : Expr) : Turns (p.continuationRound least left)
  itemsRound (close : Symbol) : Turns (p.itemsRound close)
  clauseRound : Turns p.clauseRound
  separatorsRound : Turns separatorsRound
  statementsRound : Turns p.statementsRound

theorem progress (p : PlainParser) : p.Progress where
  expression := advances_expression
  operand := advances_of_follows operand_follows
  application := advances_application
  unary := advances_unary
  items close := advances_of_follows (items_follows close)
  statement := advances_statement
  emptyClause _ := clause_of_over
  clause _ := ends_clause
  continuationRound := turns_continuationRound
  itemsRound := turns_itemsRound
  clauseRound := turns_clauseRound
  separatorsRound := turns_separatorsRound
  statementsRound := turns_statementsRound

/-! ## Entry points -/

def parse (reader : PlainParser → Work α) (text : List Char) : Option (Except Error α) :=
  match Lexer.tokenize text with
  | .error e => some (.error e)
  | .ok ts =>
    match (reader ⟨Text.byteLength text⟩ ts : Option (Except Error (α × List Token))) with
    | none => none
    | some outcome => some (outcome.map Prod.fst)

/-- On every list of tokens and on every text the work ends as the reader with a measure does. -/
structure Total (reader : PlainParser → Work α) (model : Nat → List Token → Except Error α)
    (parsed : List Char → Except Error α) : Prop where
  tokens : ∀ p ts, Follows (·, []) (reader p) ts (model p.stop ts)
  text : ∀ text, parse reader text = some (parsed text)

theorem parse_eq {reader : PlainParser → Work α} {model : Nat → List Token → Except Error α}
    (h : ∀ p ts, Follows (·, []) (reader p) ts (model p.stop ts)) (text : List Char) :
    parse reader text = some (Lexer.tokenize text >>= model (Text.byteLength text)) := by
  unfold parse
  cases Lexer.tokenize text with
  | error e => rfl
  | ok ts =>
    dsimp only
    rw [h]
    show some _ = some (model _ ts)
    cases model (Text.byteLength text) ts <;> rfl

/-- Every reader makes progress, and every entry point has an outcome. -/
theorem reading_ends :
    (∀ p : PlainParser, p.Progress) ∧
    Total wholeExpression Parser.wholeExpression Expr.parse ∧
    Total statements Parser.statements Stmt.parseAll ∧
    Total foreachHeader Parser.foreachHeader ForeachHeader.parse ∧
    Total forHeader Parser.forHeader ForHeader.parse :=
  ⟨progress,
    ⟨fun _ => wholeExpression_follows, parse_eq fun _ => wholeExpression_follows⟩,
    ⟨fun _ => statements_follows, parse_eq fun _ => statements_follows⟩,
    ⟨fun _ => foreachHeader_follows, parse_eq fun _ => foreachHeader_follows⟩,
    ⟨fun _ => forHeader_follows, parse_eq fun _ => forHeader_follows⟩⟩

theorem clause_standstill :
    Lexer.tokenize ";;".toList = .ok [⟨.symbol .semicolon, 0⟩, ⟨.symbol .semicolon, 1⟩] ∧
    clause ⟨2⟩ [⟨.symbol .semicolon, 0⟩, ⟨.symbol .semicolon, 1⟩] =
      some (.ok ([], [⟨.symbol .semicolon, 0⟩, ⟨.symbol .semicolon, 1⟩])) ∧
    ¬Advances (clause ⟨2⟩) := by
  have finished : ClauseOver [⟨.symbol .semicolon, 0⟩, ⟨.symbol .semicolon, 1⟩] := .inr ⟨0, _, rfl⟩
  refine ⟨by cbv, clause_of_over finished, fun advances => ?_⟩
  obtain ⟨outcome, done, fewer⟩ := advances [⟨.symbol .semicolon, 0⟩, ⟨.symbol .semicolon, 1⟩]
  have still : outcome = .ok ([], _) := Option.some.inj (done.symm.trans (clause_of_over finished))
  exact Nat.lt_irrefl _ (fewer [] _ still)

end Stencil.PlainParser
