import Stencil.Proofs.Expr.Plain

/-!
# What the plain readers come to

Each reader that is free to go on forever ends where the reader of `Stencil.Parser` does, with its error
or with its value and the tokens that it leaves (`Follows`). The proofs are by induction on the tokens that
are left, through the two readers' equations side by side. A reader that calls another on the same tokens
stands above it in the second part of the measure.
-/

namespace Stencil.PlainParser

variable {α β ρ σ τ : Type} {x : Work α} {ts us rest : List Token} {p : PlainParser}

/-- The work ends as a reader does: with its error, or its value and the tokens that it leaves. -/
def Follows (view : ρ → α × List Token) (x : Work α) (ts : List Token) (outcome : Except Error ρ) : Prop :=
  x ts = some (outcome.map view)

def ofRead (read : Read α us) : α × List Token :=
  (read.value, read.rest)

def ofContinued (read : Continued α us) : α × List Token :=
  (read.value, read.rest)

theorem bind_ok {f : α → Work β} {a : α} (h : x ts = some (.ok (a, rest))) : (x >>= f) ts = f a rest := by
  show (x ts >>= _ : Option _) = _
  rw [h]
  rfl

theorem bind_error {f : α → Work β} {e : Error} (h : x ts = some (.error e)) :
    (x >>= f) ts = some (.error e) := by
  show (x ts >>= _ : Option _) = _
  rw [h]
  rfl

namespace Follows

variable {view : ρ → α × List Token} {onward : σ → β × List Token} {f : α → Work β} {a : α}

theorem bind {outcome : Except Error ρ} {g : ρ → Except Error σ} (h : Follows view x ts outcome)
    (next : ∀ r, Follows onward (f (view r).1) (view r).2 (g r)) :
    Follows onward (x >>= f) ts (outcome >>= g) := by
  cases outcome with
  | error e => exact bind_error h
  | ok r => exact (bind_ok h).trans (next r)

theorem read {outcome : Except Error (Read α us)} {g : Read α us → Except Error σ}
    (h : Follows ofRead x ts outcome)
    (next : ∀ a rest shorter, Follows onward (f a) rest (g ⟨a, rest, shorter⟩)) :
    Follows onward (x >>= f) ts (outcome >>= g) :=
  h.bind fun r => next r.value r.rest r.shorter

theorem continued {outcome : Except Error (Continued α us)} {g : Continued α us → Except Error σ}
    (h : Follows ofContinued x ts outcome)
    (next : ∀ a rest bounded, Follows onward (f a) rest (g ⟨a, rest, bounded⟩)) :
    Follows onward (x >>= f) ts (outcome >>= g) :=
  h.bind fun r => next r.value r.rest r.bounded

theorem step {outcome : Except Error σ} (h : x ts = some (.ok (a, rest)))
    (next : Follows onward (f a) rest outcome) : Follows onward (x >>= f) ts outcome :=
  (bind_ok h).trans next

theorem map {outcome : Except Error ρ} {seen : σ → α × List Token} {g : ρ → σ}
    (h : Follows view x ts outcome) (same : ∀ r, seen (g r) = view r) :
    Follows seen x ts (outcome >>= fun r => pure (g r)) := by
  cases outcome with
  | error e => exact h
  | ok r => exact h.trans (congrArg (fun p => some (Except.ok p)) (same r).symm)

end Follows

/-! ## Single tokens -/

theorem eat_some {s : Symbol} {read : Read Unit ts} (found : Parser.symbol? s ts = some read) :
    eat s ts = some (.ok (true, read.rest)) := by
  unfold Parser.symbol? at found
  split at found
  · next here _ rest =>
    split at found
    · next same =>
      cases found
      refine (bind_ok rfl).trans ?_
      exact (congrFun (if_pos same) _).trans rfl
    · cases found
  · cases found

theorem eat_none {s : Symbol} (absent : Parser.symbol? s ts = none) :
    eat s ts = some (.ok (false, ts)) := by
  match ts with
  | [] => rfl
  | ⟨.int _, _⟩ :: ts | ⟨.float _, _⟩ :: ts | ⟨.str _, _⟩ :: ts | ⟨.variable _, _⟩ :: ts => rfl
  | ⟨.segment _, _⟩ :: ts | ⟨.ident _, _⟩ :: ts => rfl
  | ⟨.symbol found, offset⟩ :: ts =>
    have other : found ≠ s := by
      rintro rfl
      simp [Parser.symbol?] at absent
    refine (bind_ok rfl).trans ?_
    exact (congrFun (if_neg other) _).trans rfl

theorem expect_follows (s : Symbol) (ts : List Token) :
    Follows ofRead (p.expect s) ts (Parser.symbol p.stop s ts) := by
  rw [expect, Parser.symbol]
  cases found : Parser.symbol? s ts with
  | some read => exact .step (eat_some found) rfl
  | none => exact .step (eat_none found) rfl

theorem expectEnd_follows (ts : List Token) :
    Follows (·, []) p.expectEnd ts (Parser.ending p.stop ts) := by
  cases ts <;> rfl

theorem memberName_follows (ts : List Token) :
    Follows ofRead p.memberName ts (Parser.memberName p.stop ts) := by
  match ts with
  | [] => rfl
  | ⟨.int _, _⟩ :: ts | ⟨.float _, _⟩ :: ts | ⟨.str _, _⟩ :: ts | ⟨.variable _, _⟩ :: ts => rfl
  | ⟨.segment _, _⟩ :: ts | ⟨.ident _, _⟩ :: ts | ⟨.symbol _, _⟩ :: ts => rfl

theorem bindingName_follows (ts : List Token) :
    Follows ofRead p.bindingName ts (Parser.bindingName p.stop ts) := by
  match ts with
  | [] => rfl
  | ⟨.int _, _⟩ :: ts | ⟨.float _, _⟩ :: ts | ⟨.str _, _⟩ :: ts | ⟨.variable _, _⟩ :: ts => rfl
  | ⟨.segment _, _⟩ :: ts | ⟨.symbol _, _⟩ :: ts => rfl
  | ⟨.ident word, _⟩ :: ts =>
    refine .step (a := some (.ident word)) rfl ?_
    show Follows ofRead (if _ then _ else _) _ (if _ then _ else _)
    split <;> rfl

theorem asWord_follows (ts : List Token) :
    Follows ofRead p.asWord ts (Parser.asWord p.stop ts) := by
  match ts with
  | [] => rfl
  | ⟨.int _, _⟩ :: ts | ⟨.float _, _⟩ :: ts | ⟨.str _, _⟩ :: ts | ⟨.variable _, _⟩ :: ts => rfl
  | ⟨.segment _, _⟩ :: ts | ⟨.symbol _, _⟩ :: ts => rfl
  | ⟨.ident word, _⟩ :: ts =>
    refine .step (a := some (.ident word)) rfl ?_
    show Follows ofRead (if _ then _ else _) _ (if _ then _ else _)
    split <;> rfl

/-! ## Expressions -/

mutual

theorem expression_follows (least : Nat) (ts : List Token) :
    Follows ofRead (p.expression least) ts (Parser.expression p.stop least ts) := by
  rw [expression, Parser.expression]
  refine (operand_follows ts).read fun first rest shorter => ?_
  exact (continuation_follows least first rest).map fun _ => rfl
termination_by (ts.length, 1)

theorem continuation_follows (least : Nat) (left : Expr) (ts : List Token) :
    Follows ofContinued (p.continuation least left) ts (Parser.continuation p.stop least left ts) := by
  rw [continuation, continuationRound]
  match ts with
  | [] =>
    rw [Parser.continuation]
    refine .step (a := .done left) rfl ?_
    rfl
  | t :: ts =>
    rw [Parser.continuation]
    simp only [bind_assoc]
    refine .step (a := some t.kind) rfl ?_
    show Follows _ ((match Infix.ofToken? t.kind with | none => _ | some op => _) >>= _) _ _
    cases Infix.ofToken? t.kind with
    | none =>
      refine .step (a := .done left) rfl ?_
      rfl
    | some op =>
      show Follows _ ((if _ then _ else _) >>= _) _ (if _ then _ else _)
      split
      · refine .step (a := .done left) rfl ?_
        rfl
      · rw [application]
        simp only [bind_assoc]
        refine .step (a := ()) rfl ?_
        refine (rightSide_follows op left ts).read fun whole rest shorter => ?_
        exact (continuation_follows least whole rest).map fun _ => rfl
termination_by (ts.length, 0)

theorem rightSide_follows (op : Infix) (left : Expr) (ts : List Token) :
    Follows ofRead (p.rightSide op left) ts (Parser.application p.stop op left ts) := by
  rw [rightSide.eq_def, Parser.application.eq_def]
  cases op with
  | conditional =>
    refine (expression_follows 0 ts).read fun yes rest shorter => ?_
    refine (expect_follows .colon rest).read fun _ rest shorter => ?_
    refine (expression_follows _ rest).read fun no rest shorter => ?_
    rfl
  | logical op =>
    exact (expression_follows op.rightLevel ts).read fun right rest shorter => rfl
  | binary op =>
    exact (expression_follows op.rightLevel ts).read fun right rest shorter => rfl
  | member =>
    exact (memberName_follows ts).read fun segment rest shorter => rfl
  | subscript =>
    refine (expression_follows 0 ts).read fun index rest shorter => ?_
    exact (expect_follows .rBracket rest).read fun _ rest shorter => rfl
termination_by (ts.length, 2)

theorem operand_follows (ts : List Token) :
    Follows ofRead p.operand ts (Parser.operand p.stop ts) := by
  rw [operand, Parser.operand.eq_def]
  match ts with
  | [] => rfl
  | ⟨.int _, _⟩ :: ts | ⟨.float _, _⟩ :: ts | ⟨.str _, _⟩ :: ts | ⟨.variable _, _⟩ :: ts => rfl
  | ⟨.segment _, _⟩ :: ts => rfl
  | ⟨.ident word, offset⟩ :: ts =>
    refine .step (a := some (.ident word)) rfl ?_
    refine .step (a := ⟨.ident word, offset⟩ :: ts) rfl ?_
    refine .step (a := ()) rfl ?_
    dsimp only
    cases Keyword.ofText? word with
    | some keyword =>
      cases keyword with
      | true | false | null | and | or | as => rfl
      | not =>
        show Follows _ (p.unary .not) ts _
        rw [unary]
        exact (expression_follows _ ts).read fun e rest shorter => rfl
    | none =>
      show Follows _ (eat .lParen >>= _) ts _
      cases call : Parser.symbol? .lParen ts with
      | some read =>
        have fewer := read.shorter
        refine .step (eat_some call) ?_
        exact (items_follows .rParen read.rest).read fun args rest shorter => rfl
      | none => exact .step (eat_none call) rfl
  | ⟨.symbol s, _⟩ :: ts =>
    refine .step (a := some (.symbol s)) rfl ?_
    cases s with
    | bang | minus =>
      refine .step (a := ()) rfl ?_
      rw [unary]
      exact (expression_follows _ ts).read fun e rest shorter => rfl
    | lParen =>
      refine .step (a := ()) rfl ?_
      refine (expression_follows 0 ts).read fun e rest shorter => ?_
      refine (expect_follows .rParen rest).read fun _ rest shorter => ?_
      rfl
    | lBracket =>
      refine .step (a := ()) rfl ?_
      refine (items_follows .rBracket ts).read fun es rest shorter => ?_
      rfl
    | _ => rfl
termination_by (ts.length, 0)

theorem items_follows (close : Symbol) (ts : List Token) :
    Follows ofRead (p.items close) ts (Parser.items p.stop close ts) := by
  rw [items, itemsRound, Parser.items]
  simp only [bind_assoc]
  cases found : Parser.symbol? close ts with
  | some read =>
    refine .step (eat_some found) ?_
    refine .step (a := .done []) rfl ?_
    rfl
  | none =>
    refine .step (eat_none found) ?_
    simp only [Bool.false_eq_true, if_false, bind_assoc]
    refine (expression_follows 0 ts).read fun e rest shorter => ?_
    cases more : Parser.symbol? .comma rest with
    | some read =>
      have fewer := read.shorter
      refine .step (eat_some more) ?_
      refine .step (a := .again e) rfl ?_
      exact (items_follows close read.rest).read fun es rest shorter => rfl
    | none =>
      refine .step (eat_none more) ?_
      simp only [Bool.false_eq_true, if_false, bind_assoc]
      refine (expect_follows close rest).read fun _ rest shorter => ?_
      rfl
termination_by (ts.length, 2)

end

/-! ## Statements and headers -/

theorem plain_follows (ts : List Token) :
    Follows ofRead (do return Stmt.expr (← p.expression 0)) ts (Parser.plainStatement p.stop ts) := by
  rw [Parser.plainStatement]
  exact (expression_follows 0 ts).read fun e rest shorter => rfl

theorem change_follows (what : Parser.Change) (ts : List Token) :
    Follows ofRead (p.change what) ts (Parser.change p.stop what ts) := by
  rw [change, Parser.change]
  refine (bindingName_follows ts).read fun name rest shorter => ?_
  refine .step (a := ()) rfl ?_
  cases what with
  | assign op => exact (expression_follows 0 rest.tail).read fun e rest shorter => rfl
  | increment => rfl
  | decrement => rfl

theorem statement_eq_plain {t : Token} (unnamed : Parser.isNameToken t.kind = false)
    (up : Parser.symbol? .increment (t :: ts) = none) (down : Parser.symbol? .decrement (t :: ts) = none) :
    Parser.statement p.stop (t :: ts) = Parser.plainStatement p.stop (t :: ts) := by
  have none : Parser.announced? (t :: ts) = none := by
    cases ts with
    | nil => rfl
    | cons next ts => rw [Parser.announced?, unnamed, if_neg Bool.false_ne_true]
  rw [Parser.statement, up, down, none]

theorem statement_follows (ts : List Token) :
    Follows ofRead p.statement ts (Parser.statement p.stop ts) := by
  rw [statement]
  match ts with
  | [] => exact plain_follows []
  | ⟨.int _, _⟩ :: ts | ⟨.float _, _⟩ :: ts | ⟨.str _, _⟩ :: ts | ⟨.segment _, _⟩ :: ts =>
    rw [statement_eq_plain rfl rfl rfl]
    refine .step rfl ?_
    exact plain_follows _
  | ⟨.variable _, _⟩ :: ts | ⟨.ident _, _⟩ :: ts =>
    rw [Parser.statement]
    refine .step rfl ?_
    refine .step rfl ?_
    cases ts with
    | nil => exact plain_follows _
    | cons next ts =>
      simp only [List.tail_cons, List.head?_cons, Option.map_some, Option.bind_some, Parser.announced?,
        Parser.isNameToken, if_true, Parser.symbol?]
      cases Parser.Change.ofToken? next.kind with
      | some what => exact change_follows what _
      | none => exact plain_follows _
  | ⟨.symbol s, _⟩ :: ts =>
    cases s with
    | increment | decrement =>
      rw [Parser.statement]
      refine .step rfl ?_
      refine .step (a := ()) rfl ?_
      exact (bindingName_follows ts).read fun name rest shorter => rfl
    | _ =>
      rw [statement_eq_plain rfl rfl rfl]
      refine .step rfl ?_
      exact plain_follows _

theorem atSeparator_eq (ts : List Token) :
    atSeparator ts = some (.ok (ts.head?.any Parser.isSeparator, ts)) := by
  match ts with
  | [] => rfl
  | ⟨.int _, _⟩ :: ts | ⟨.float _, _⟩ :: ts | ⟨.str _, _⟩ :: ts | ⟨.variable _, _⟩ :: ts => rfl
  | ⟨.segment _, _⟩ :: ts | ⟨.ident _, _⟩ :: ts => rfl
  | ⟨.symbol s, _⟩ :: ts => cases s <;> rfl

theorem skipSeparators_eq (ts : List Token) :
    p.skipSeparators ts = some (.ok ((), ts.dropWhile Parser.isSeparator)) := by
  induction ts with
  | nil =>
    rw [skipSeparators]
    rfl
  | cons t ts ih =>
    rw [skipSeparators, separatorsRound, bind_assoc]
    refine (bind_ok (atSeparator_eq _)).trans ?_
    rw [List.head?_cons, Option.any_some, List.dropWhile_cons]
    cases Parser.isSeparator t with
    | true => exact ih
    | false => rfl

theorem statements_dropWhile (ts : List Token) :
    Parser.statements p.stop ts = Parser.statements p.stop (ts.dropWhile Parser.isSeparator) := by
  induction ts with
  | nil => rfl
  | cons t ts ih =>
    rw [List.dropWhile_cons]
    split
    · next separates => rw [Parser.statements, if_pos separates, ih]
    · rfl

theorem statements_follows (ts : List Token) :
    Follows (·, []) p.statements ts (Parser.statements p.stop ts) := by
  rw [statements, statementsRound, statements_dropWhile]
  simp only [bind_assoc]
  refine .step (skipSeparators_eq ts) ?_
  have fewer := (List.dropWhile_suffix (l := ts) Parser.isSeparator).length_le
  have first := List.head?_dropWhile_not Parser.isSeparator ts
  generalize ts.dropWhile Parser.isSeparator = left at fewer first
  cases left with
  | nil =>
    rw [Parser.statements]
    rfl
  | cons t left =>
    have stands : Parser.isSeparator t = false := first
    rw [Parser.statements, if_neg (Bool.eq_false_iff.1 stands)]
    refine .step (a := some t.kind) rfl ?_
    simp only [Option.isNone_some, Bool.false_eq_true, if_false, bind_assoc]
    refine (statement_follows (t :: left)).read fun s rest shorter => ?_
    have again := statements_follows rest
    refine .step (atSeparator_eq rest) ?_
    refine .step rfl ?_
    cases rest with
    | nil =>
      rw [Parser.statements] at again
      refine .step (a := .again s) rfl ?_
      exact .step again rfl
    | cons u rest =>
      cases separates : Parser.isSeparator u with
      | true =>
        rw [Parser.statements, if_pos separates] at again
        simp only [List.head?_cons, Option.any_some, separates, Bool.true_or, if_true]
        refine .step (a := .again s) rfl ?_
        exact again.bind fun ss => rfl
      | false =>
        simp only [List.head?_cons, Option.any_some, separates]
        rfl
termination_by ts.length

theorem clauseTail_follows (ts : List Token) :
    Follows ofRead p.clauseTail ts (Parser.clauseTail p.stop ts) := by
  rw [clauseTail, clauseRound, Parser.clauseTail]
  simp only [bind_assoc]
  refine (statement_follows ts).read fun s rest shorter => ?_
  cases more : Parser.symbol? .comma rest with
  | some read =>
    have fewer := read.shorter
    refine .step (eat_some more) ?_
    refine .step (a := .again s) rfl ?_
    exact (clauseTail_follows read.rest).read fun ss rest shorter => rfl
  | none =>
    refine .step (eat_none more) ?_
    refine .step (a := .done [s]) rfl ?_
    rfl
termination_by ts.length

theorem clause_follows (ts : List Token) :
    Follows ofContinued p.clause ts (Parser.clause p.stop ts) := by
  rw [clause, Parser.clause.eq_def]
  match ts with
  | [] => rfl
  | ⟨.int _, _⟩ :: ts | ⟨.float _, _⟩ :: ts | ⟨.str _, _⟩ :: ts | ⟨.segment _, _⟩ :: ts
  | ⟨.variable _, _⟩ :: ts | ⟨.ident _, _⟩ :: ts =>
    refine .step rfl ?_
    exact (clauseTail_follows _).map fun _ => rfl
  | ⟨.symbol s, _⟩ :: ts =>
    refine .step rfl ?_
    cases s with
    | semicolon => rfl
    | _ => exact (clauseTail_follows _).map fun _ => rfl

theorem guarded_follows (here : Parser.symbol? .semicolon ts = none) :
    Follows ofRead (do let e ← p.expression 0; p.expect .semicolon; return some e) ts
      (Parser.condition p.stop ts) := by
  rw [Parser.condition, here]
  refine (expression_follows 0 ts).read fun e rest _ => ?_
  exact (expect_follows .semicolon rest).read fun _ rest _ => rfl

theorem condition_follows (ts : List Token) :
    Follows ofRead p.condition ts (Parser.condition p.stop ts) := by
  rw [condition]
  match ts with
  | [] =>
    refine .step rfl ?_
    exact guarded_follows rfl
  | ⟨.int _, _⟩ :: ts | ⟨.float _, _⟩ :: ts | ⟨.str _, _⟩ :: ts | ⟨.segment _, _⟩ :: ts
  | ⟨.variable _, _⟩ :: ts | ⟨.ident _, _⟩ :: ts =>
    refine .step rfl ?_
    exact guarded_follows rfl
  | ⟨.symbol s, _⟩ :: ts =>
    refine .step rfl ?_
    cases s with
    | semicolon => rfl
    | _ => exact guarded_follows rfl

theorem wholeExpression_follows (ts : List Token) :
    Follows (·, []) p.wholeExpression ts (Parser.wholeExpression p.stop ts) := by
  refine (expression_follows 0 ts).read fun e rest _ => ?_
  exact (expectEnd_follows rest).bind fun _ => rfl

theorem foreachHeader_follows (ts : List Token) :
    Follows (·, []) p.foreachHeader ts (Parser.foreachHeader p.stop ts) := by
  refine (expression_follows 0 ts).read fun iterable rest _ => ?_
  refine (asWord_follows rest).read fun _ rest _ => ?_
  refine (bindingName_follows rest).read fun name rest _ => ?_
  cases arrow : Parser.symbol? .fatArrow rest with
  | some read =>
    refine .step (eat_some arrow) ?_
    simp only [arrow]
    refine (bindingName_follows read.rest).read fun value rest _ => ?_
    exact (expectEnd_follows rest).bind fun _ => rfl
  | none =>
    refine .step (eat_none arrow) ?_
    simp only [arrow]
    exact (expectEnd_follows rest).bind fun _ => rfl

theorem forHeader_follows (ts : List Token) :
    Follows (·, []) p.forHeader ts (Parser.forHeader p.stop ts) := by
  refine (clause_follows ts).continued fun first rest _ => ?_
  refine (expect_follows .semicolon rest).read fun _ rest _ => ?_
  refine (condition_follows rest).read fun condition rest _ => ?_
  refine (clause_follows rest).continued fun step rest _ => ?_
  exact (expectEnd_follows rest).bind fun _ => rfl

end Stencil.PlainParser
