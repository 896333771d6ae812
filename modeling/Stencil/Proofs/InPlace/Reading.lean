import Stencil.Proofs.InPlace.Cursor

/-!
# Readers with a cursor

A reader with a cursor follows the reader of the tokens that are left: it finds the same value or refuses
for the same reason, and its cursor ends where that reader stops. It gets ahead where that reader does,
and no index that it uses is outside of the tokens.
-/

namespace Stencil

namespace Cursor
open InPlace

variable {α ρ σ τ υ : Type} {spots : List Spot} {stop pos : Nat} {ts : List Token} {t : Token}

/-- Work that gives what is related to what comes out, or refuses for the same reason. -/
def Follows (related : τ → ρ → Prop) (work : InPlace τ) : Except Error ρ → Prop
  | .ok r => ∃ w, work = pure w ∧ related w r
  | .error e => work = refuse e

theorem Follows.pure {related : τ → ρ → Prop} {w : τ} {r : ρ} (h : related w r) :
    Follows related (pure w) (.ok r) :=
  ⟨w, rfl, h⟩

theorem Follows.bind {related : τ → ρ → Prop} {also : υ → σ → Prop} {work : InPlace τ}
    {outcome : Except Error ρ} {more : τ → InPlace υ} {next : ρ → Except Error σ}
    (h : Follows related work outcome) (then_ : ∀ w r, related w r → Follows also (more w) (next r)) :
    Follows also (work >>= more) (outcome >>= next) := by
  cases outcome with
  | error e =>
    have refused : work = refuse e := h
    rw [refused]
    rfl
  | ok r =>
    obtain ⟨w, given, meets⟩ := h
    rw [given, pure_bind]
    exact then_ w r meets

theorem Follows.eq_of {work : InPlace ρ} {outcome : Except Error ρ}
    (h : Follows (· = ·) work outcome) : work = of outcome := by
  cases outcome with
  | error e => exact h
  | ok r =>
    obtain ⟨_, given, rfl⟩ := h
    exact given

theorem Follows.unexpected {related : τ → ρ → Prop} (h : At spots stop pos ts) (what : Expected) :
    Follows related (unexpected spots pos what) (.error (Parser.refusal stop what ts)) :=
  h.unexpected what

/-- The same value, with the cursor at what is left. -/
def Ahead.Meets (stop : Nat) (a : Ahead α spots pos) (r : Read α ts) : Prop :=
  a.value = r.value ∧ At spots stop a.next r.rest

def Onward.Meets (stop : Nat) (a : Onward α spots pos) (r : Continued α ts) : Prop :=
  a.value = r.value ∧ At spots stop a.next r.rest

theorem Follows.read {related : υ → σ → Prop} {work : InPlace (Ahead α spots pos)}
    {outcome : Except Error (Read α ts)} {more : Ahead α spots pos → InPlace υ}
    {then_ : Read α ts → Except Error σ} (h : Follows (Ahead.Meets stop) work outcome)
    (continues : ∀ value next ahead rest shorter, At spots stop next rest →
      Follows related (more ⟨value, next, ahead⟩) (then_ ⟨value, rest, shorter⟩)) :
    Follows related (work >>= more) (outcome >>= then_) := by
  refine h.bind ?_
  rintro ⟨value, next, ahead⟩ ⟨_, rest, shorter⟩ ⟨rfl, place⟩
  exact continues value next ahead rest shorter place

theorem Follows.continued {related : υ → σ → Prop} {work : InPlace (Onward α spots pos)}
    {outcome : Except Error (Continued α ts)} {more : Onward α spots pos → InPlace υ}
    {then_ : Continued α ts → Except Error σ} (h : Follows (Onward.Meets stop) work outcome)
    (continues : ∀ value next onward rest bounded, At spots stop next rest →
      Follows related (more ⟨value, next, onward⟩) (then_ ⟨value, rest, bounded⟩)) :
    Follows related (work >>= more) (outcome >>= then_) := by
  refine h.bind ?_
  rintro ⟨value, next, onward⟩ ⟨_, rest, bounded⟩ ⟨rfl, place⟩
  exact continues value next onward rest bounded place

theorem take_follows (value : α) (h : At spots stop pos (t :: ts)) {shorter} :
    Follows (Ahead.Meets stop) (take spots value pos)
      (.ok (⟨value, ts, shorter⟩ : Read α (t :: ts))) := by
  obtain ⟨ahead, taken⟩ := h.take value
  exact ⟨_, taken, rfl, h.next⟩

/-! ## Symbols and names -/

theorem isSymbol_front (s : Symbol) (ts : List Token) :
    isSymbol s (front stop ts).kind = (Parser.symbol? s ts).isSome := by
  cases ts with
  | nil => rfl
  | cons t ts =>
    obtain ⟨kind, offset⟩ := t
    cases kind with
    | symbol found =>
      simp only [front, Spot.ofToken, isSymbol, Parser.symbol?]
      split <;> simp_all
    | _ => rfl

theorem At.eat_none {s : Symbol} (h : At spots stop pos ts) (other : Parser.symbol? s ts = none) :
    eat spots s pos = pure none := by
  rw [eat, h.peek, pure_bind, isSymbol_front, other]
  rfl

theorem At.eat_some {s : Symbol} {read : Read Unit ts} (h : At spots stop pos ts)
    (found : Parser.symbol? s ts = some read) :
    ∃ next ahead, eat spots s pos = pure (some ⟨(), next, ahead⟩) ∧ At spots stop next read.rest := by
  rw [eat, h.peek, pure_bind, isSymbol_front, found]
  match ts with
  | [] => cases found
  | ⟨.symbol other, _⟩ :: ts =>
    rw [Parser.symbol?] at found
    split at found
    · cases found
      obtain ⟨ahead, taken⟩ := h.take ()
      exact ⟨pos + 1, ahead, by rw [taken]; rfl, h.next⟩
    · cases found
  | ⟨.ident _, _⟩ :: ts | ⟨.variable _, _⟩ :: ts | ⟨.segment _, _⟩ :: ts | ⟨.int _, _⟩ :: ts
  | ⟨.float _, _⟩ :: ts | ⟨.str _, _⟩ :: ts => cases found

theorem expect_follows (s : Symbol) (h : At spots stop pos ts) :
    Follows (Ahead.Meets stop) (expect spots s pos) (Parser.symbol stop s ts) := by
  rw [expect, Parser.symbol]
  cases found : Parser.symbol? s ts with
  | none =>
    rw [h.eat_none found, pure_bind]
    exact .unexpected h _
  | some read =>
    obtain ⟨next, ahead, eaten, place⟩ := h.eat_some found
    rw [eaten, pure_bind]
    exact .pure ⟨rfl, place⟩

theorem memberName_follows (h : At spots stop pos ts) :
    Follows (Ahead.Meets stop) (memberName spots pos) (Parser.memberName stop ts) := by
  rw [memberName, h.peek, pure_bind]
  match ts with
  | [] => exact .unexpected h _
  | ⟨.segment _, _⟩ :: ts | ⟨.ident _, _⟩ :: ts => exact take_follows _ h
  | ⟨.variable _, _⟩ :: ts | ⟨.int _, _⟩ :: ts | ⟨.float _, _⟩ :: ts | ⟨.str _, _⟩ :: ts
  | ⟨.symbol _, _⟩ :: ts => exact .unexpected h _

theorem bindingName_follows (h : At spots stop pos ts) :
    Follows (Ahead.Meets stop) (bindingName spots pos) (Parser.bindingName stop ts) := by
  rw [bindingName, h.peek, pure_bind]
  match ts with
  | [] => exact .unexpected h _
  | ⟨.ident word, _⟩ :: ts =>
    simp only [front, Spot.ofToken, Parser.bindingName]
    split
    · exact .unexpected h _
    · exact take_follows _ h
  | ⟨.variable _, _⟩ :: ts => exact take_follows _ h
  | ⟨.segment _, _⟩ :: ts | ⟨.int _, _⟩ :: ts | ⟨.float _, _⟩ :: ts | ⟨.str _, _⟩ :: ts
  | ⟨.symbol _, _⟩ :: ts => exact .unexpected h _

theorem asWord_follows (h : At spots stop pos ts) :
    Follows (Ahead.Meets stop) (asWord spots pos) (Parser.asWord stop ts) := by
  rw [asWord, h.peek, pure_bind]
  match ts with
  | [] => exact .unexpected h _
  | ⟨.ident word, _⟩ :: ts =>
    simp only [front, Spot.ofToken, Parser.asWord]
    split
    · exact take_follows _ h
    · exact .unexpected h _
  | ⟨.variable _, _⟩ :: ts | ⟨.segment _, _⟩ :: ts | ⟨.int _, _⟩ :: ts | ⟨.float _, _⟩ :: ts
  | ⟨.str _, _⟩ :: ts | ⟨.symbol _, _⟩ :: ts => exact .unexpected h _

/-! ## Expressions -/

mutual

theorem expression_follows {pos : Nat} {ts : List Token} (least : Nat)
    (h : At spots stop pos ts) :
    Follows (Ahead.Meets stop) (expression spots least pos) (Parser.expression stop least ts) := by
  rw [expression, Parser.expression]
  refine (operand_follows h).read fun first _ _ rest _ h => ?_
  refine (continuation_follows least first h).continued fun whole _ _ rest _ h => ?_
  exact .pure ⟨rfl, h⟩
termination_by (ts.length, 1)

theorem continuation_follows {pos : Nat} {ts : List Token} (least : Nat) (left : Expr)
    (h : At spots stop pos ts) :
    Follows (Onward.Meets stop) (continuation spots least left pos)
      (Parser.continuation stop least left ts) := by
  rw [continuation, h.peek, pure_bind]
  match ts with
  | [] =>
    rw [Parser.continuation]
    exact .pure ⟨rfl, h⟩
  | t :: ts =>
    rw [Parser.continuation]
    show Follows _ (match Infix.ofToken? t.kind with | none => _ | some op => _) _
    cases Infix.ofToken? t.kind with
    | none => exact .pure ⟨rfl, h⟩
    | some op =>
      show Follows _ (if _ then _ else _) (if _ then _ else _)
      split
      · exact .pure ⟨rfl, h⟩
      · obtain ⟨_, taken⟩ := h.take ()
        rw [taken, pure_bind]
        refine (application_follows op left h.next).read fun whole _ _ rest _ h => ?_
        refine (continuation_follows least whole h).continued fun whole _ _ rest _ h => ?_
        exact .pure ⟨rfl, h⟩
termination_by (ts.length, 0)

theorem application_follows {pos : Nat} {ts : List Token} (op : Infix) (left : Expr)
    (h : At spots stop pos ts) :
    Follows (Ahead.Meets stop) (application spots op left pos)
      (Parser.application stop op left ts) := by
  rw [application.eq_def, Parser.application.eq_def]
  cases op with
  | conditional =>
    refine (expression_follows 0 h).read fun yes _ _ rest _ h => ?_
    refine (expect_follows .colon h).read fun _ _ _ rest _ h => ?_
    refine (expression_follows _ h).read fun no _ _ rest _ h => ?_
    exact .pure ⟨rfl, h⟩
  | logical op =>
    refine (expression_follows _ h).read fun right _ _ rest _ h => ?_
    exact .pure ⟨rfl, h⟩
  | binary op =>
    refine (expression_follows _ h).read fun right _ _ rest _ h => ?_
    exact .pure ⟨rfl, h⟩
  | member =>
    refine (memberName_follows h).read fun segment _ _ rest _ h => ?_
    exact .pure ⟨rfl, h⟩
  | subscript =>
    refine (expression_follows 0 h).read fun inner _ _ rest _ h => ?_
    refine (expect_follows .rBracket h).read fun _ _ _ rest _ h => ?_
    exact .pure ⟨rfl, h⟩
termination_by (ts.length, 2)

theorem operand_follows {pos : Nat} {ts : List Token} (h : At spots stop pos ts) :
    Follows (Ahead.Meets stop) (operand spots pos) (Parser.operand stop ts) := by
  rw [operand, h.peek, pure_bind, Parser.operand.eq_def]
  match ts with
  | [] => exact .unexpected h _
  | ⟨.int _, _⟩ :: ts | ⟨.float _, _⟩ :: ts | ⟨.str _, _⟩ :: ts | ⟨.variable _, _⟩ :: ts =>
    exact take_follows _ h
  | ⟨.segment _, _⟩ :: ts => exact .unexpected h _
  | ⟨.ident word, offset⟩ :: ts =>
    obtain ⟨_, taken⟩ := h.take ()
    simp only [front, Spot.ofToken, taken, pure_bind]
    cases Keyword.ofText? word with
    | some keyword =>
      cases keyword with
      | true | false | null => exact .pure ⟨rfl, h.next⟩
      | not =>
        refine (expression_follows _ h.next).read fun e _ _ rest _ h => ?_
        exact .pure ⟨rfl, h⟩
      | and | or | as =>
        have back := index_eq h.getElem?
        simp only [minus_eq (Nat.le_add_left 1 pos), Nat.add_sub_cancel, back, pure_bind]
        rfl
    | none =>
      cases call : Parser.symbol? .lParen ts with
      | some read =>
        have fewer := read.shorter
        obtain ⟨_, _, eaten, place⟩ := h.next.eat_some call
        simp only [eaten, pure_bind]
        refine (items_follows .rParen place).read fun args _ _ rest _ h => ?_
        exact .pure ⟨rfl, h⟩
      | none =>
        simp only [h.next.eat_none call, pure_bind]
        exact .pure ⟨rfl, h.next⟩
  | ⟨.symbol s, _⟩ :: ts =>
    obtain ⟨_, taken⟩ := h.take ()
    simp only [front, Spot.ofToken, taken, pure_bind]
    cases s with
    | bang | minus =>
      refine (expression_follows _ h.next).read fun e _ _ rest _ h => ?_
      exact .pure ⟨rfl, h⟩
    | lParen =>
      refine (expression_follows 0 h.next).read fun e _ _ rest _ h => ?_
      refine (expect_follows .rParen h).read fun _ _ _ rest _ h => ?_
      exact .pure ⟨rfl, h⟩
    | lBracket =>
      refine (items_follows .rBracket h.next).read fun es _ _ rest _ h => ?_
      exact .pure ⟨rfl, h⟩
    | _ => exact .unexpected h _
termination_by (ts.length, 0)

theorem items_follows (close : Symbol) {pos : Nat} {ts : List Token} (h : At spots stop pos ts) :
    Follows (Ahead.Meets stop) (items spots close pos) (Parser.items stop close ts) := by
  rw [items, Parser.items]
  cases found : Parser.symbol? close ts with
  | some read =>
    obtain ⟨_, _, eaten, place⟩ := h.eat_some found
    rw [eaten, pure_bind]
    exact .pure ⟨rfl, place⟩
  | none =>
    rw [h.eat_none found, pure_bind]
    refine (expression_follows 0 h).read fun e _ _ rest _ h => ?_
    cases more : Parser.symbol? .comma rest with
    | some read =>
      have fewer := read.shorter
      obtain ⟨_, _, eaten, place⟩ := h.eat_some more
      simp only [eaten, more, pure_bind]
      refine (items_follows close place).read fun es _ _ rest _ h => ?_
      exact .pure ⟨rfl, h⟩
    | none =>
      simp only [h.eat_none more, more, pure_bind]
      refine (expect_follows close h).read fun _ _ _ rest _ h => ?_
      exact .pure ⟨rfl, h⟩
termination_by (ts.length, 2)

end

/-! ## Statements -/

theorem change_follows (what : Parser.Change) (h : At spots stop pos ts) :
    Follows (Ahead.Meets stop) (change spots what pos) (Parser.change stop what ts) := by
  rw [change, Parser.change]
  refine (bindingName_follows h).read fun name _ _ rest _ h => ?_
  obtain ⟨_, _, moved, h⟩ := h.tail
  simp only [moved, pure_bind]
  cases what with
  | assign op =>
    refine (expression_follows 0 h).read fun e _ _ rest _ h => ?_
    exact .pure ⟨rfl, h⟩
  | increment => exact .pure ⟨rfl, h⟩
  | decrement => exact .pure ⟨rfl, h⟩

theorem announced?_eq (h : At spots stop pos ts) :
    announced? spots pos = pure (Parser.announced? ts) := by
  rw [announced?, h.peek, pure_bind]
  match ts with
  | [] => rfl
  | [name] =>
    rw [h.peekNext, pure_bind]
    exact ite_self _
  | name :: next :: ts =>
    rw [h.peekNext, pure_bind, Parser.announced?]
    show (if Parser.isNameToken name.kind then _ else _) = _
    split <;> rfl

theorem statement_follows (h : At spots stop pos ts) :
    Follows (Ahead.Meets stop) (statement spots pos) (Parser.statement stop ts) := by
  rw [statement, Parser.statement]
  cases up : Parser.symbol? .increment ts with
  | some read =>
    obtain ⟨_, _, eaten, h⟩ := h.eat_some up
    rw [eaten, pure_bind]
    refine (bindingName_follows h).read fun name _ _ rest _ h => ?_
    exact .pure ⟨rfl, h⟩
  | none =>
  rw [h.eat_none up, pure_bind]
  cases down : Parser.symbol? .decrement ts with
  | some read =>
    obtain ⟨_, _, eaten, h⟩ := h.eat_some down
    simp only [eaten, pure_bind]
    refine (bindingName_follows h).read fun name _ _ rest _ h => ?_
    exact .pure ⟨rfl, h⟩
  | none =>
  simp only [h.eat_none down, announced?_eq h, pure_bind]
  cases Parser.announced? ts with
  | some what => exact change_follows what h
  | none =>
    refine (expression_follows 0 h).read fun e _ _ rest _ h => ?_
    exact .pure ⟨rfl, h⟩

theorem isSeparator_front (ts : List Token) :
    isSeparator (front stop ts).kind = ts.head?.any Parser.isSeparator := by
  match ts with
  | [] => rfl
  | ⟨.symbol s, _⟩ :: ts => cases s <;> rfl
  | ⟨.ident _, _⟩ :: ts | ⟨.variable _, _⟩ :: ts | ⟨.segment _, _⟩ :: ts | ⟨.int _, _⟩ :: ts
  | ⟨.float _, _⟩ :: ts | ⟨.str _, _⟩ :: ts => rfl

theorem skipSeparators_none (h : At spots stop pos ts)
    (other : ts.head?.any Parser.isSeparator = false) :
    skipSeparators spots pos = pure ⟨(), pos, Nat.le_refl _⟩ := by
  rw [skipSeparators, h.peek, pure_bind, isSeparator_front, other]
  rfl

theorem statements_separator (h : At spots stop pos (t :: ts)) (found : Parser.isSeparator t = true) :
    statements spots pos = statements spots (pos + 1) := by
  obtain ⟨_, taken⟩ := h.take ()
  conv => lhs; rw [statements]
  conv => rhs; rw [statements]
  rw [skipSeparators, h.peek, pure_bind, isSeparator_front, List.head?_cons, Option.any_some, found,
    if_pos rfl, taken]
  simp only [pure_bind, bind_assoc]

theorem statements_follows {pos : Nat} {ts : List Token} (h : At spots stop pos ts) :
    Follows (· = ·) (statements spots pos) (Parser.statements stop ts) := by
  match ts with
  | [] =>
    rw [statements, Parser.statements]
    simp only [skipSeparators_none h rfl, h.peek, pure_bind]
    exact .pure rfl
  | t :: ts =>
    rw [Parser.statements]
    split
    · next found =>
      rw [statements_separator h found]
      exact statements_follows h.next
    · next other =>
      rw [statements]
      simp only [skipSeparators_none h (Bool.eq_false_iff.2 other), h.peek, pure_bind]
      refine (statement_follows h).read fun s _ _ rest shorter h => ?_
      have again := statements_follows h
      have separates := @isSeparator_front stop rest
      simp only [h.peek, pure_bind]
      cases rest with
      | nil =>
        rw [Parser.statements] at again
        exact again.bind fun _ _ same => .pure (congrArg (s :: ·) same)
      | cons t rest =>
        rw [List.head?_cons, Option.any_some] at separates
        show Follows _ _ (if Parser.isSeparator t = true then _ else _)
        by_cases found : Parser.isSeparator t = true
        · rw [Parser.statements, if_pos found] at again
          rw [if_pos found, if_pos (Bool.or_eq_true_iff.2 (.inl (separates.trans found)))]
          exact again.bind fun _ _ same => .pure (congrArg (s :: ·) same)
        · rw [if_neg found, if_neg]
          · exact .unexpected h _
          · rw [separates, Bool.eq_false_iff.2 found]
            exact Bool.false_ne_true
termination_by ts.length
decreasing_by
  all_goals simp only [List.length_cons] at *
  all_goals omega

theorem clauseTail_follows {pos : Nat} {ts : List Token} (h : At spots stop pos ts) :
    Follows (Ahead.Meets stop) (clauseTail spots pos) (Parser.clauseTail stop ts) := by
  rw [clauseTail, Parser.clauseTail]
  refine (statement_follows h).read fun s _ _ rest _ h => ?_
  cases more : Parser.symbol? .comma rest with
  | some read =>
    have fewer := read.shorter
    obtain ⟨_, _, eaten, h⟩ := h.eat_some more
    simp only [eaten, more, pure_bind]
    refine (clauseTail_follows h).read fun ss _ _ rest _ h => ?_
    exact .pure ⟨rfl, h⟩
  | none =>
    simp only [h.eat_none more, more, pure_bind]
    exact .pure ⟨rfl, h⟩
termination_by ts.length

theorem clause_follows (h : At spots stop pos ts) :
    Follows (Onward.Meets stop) (clause spots pos) (Parser.clause stop ts) := by
  rw [clause, h.peek, pure_bind, isSymbol_front]
  match ts with
  | [] => exact .pure ⟨rfl, h⟩
  | t :: ts =>
    rw [Parser.clause]
    cases Parser.symbol? .semicolon (t :: ts) with
    | some read => exact .pure ⟨rfl, h⟩
    | none =>
      refine (clauseTail_follows h).read fun ss _ _ rest _ h => ?_
      exact .pure ⟨rfl, h⟩

theorem condition_follows (h : At spots stop pos ts) :
    Follows (Ahead.Meets stop) (condition spots pos) (Parser.condition stop ts) := by
  rw [condition, h.peek, pure_bind, isSymbol_front, Parser.condition]
  cases found : Parser.symbol? .semicolon ts with
  | some read =>
    have passed := expect_follows .semicolon h
    rw [Parser.symbol, found] at passed
    obtain ⟨_, passed, -, h⟩ := passed
    simp only [passed, pure_bind]
    exact .pure ⟨rfl, h⟩
  | none =>
    refine (expression_follows 0 h).read fun e _ _ rest _ h => ?_
    refine (expect_follows .semicolon h).read fun _ _ _ rest _ h => ?_
    exact .pure ⟨rfl, h⟩

/-! ## Whole texts -/

theorem expectEnd_follows (h : At spots stop pos ts) :
    Follows (· = ·) (expectEnd spots pos) (Parser.ending stop ts) := by
  rw [expectEnd, h.peek, pure_bind]
  cases ts with
  | nil => exact .pure rfl
  | cons t ts => exact .unexpected h _

theorem wholeExpression_follows (h : At spots stop pos ts) :
    Follows (· = ·) (wholeExpression spots pos) (Parser.wholeExpression stop ts) := by
  rw [wholeExpression, Parser.wholeExpression]
  refine (expression_follows 0 h).read fun e _ _ rest _ h => ?_
  exact (expectEnd_follows h).bind fun _ _ _ => .pure rfl

theorem foreachHeader_follows (h : At spots stop pos ts) :
    Follows (· = ·) (foreachHeader spots pos) (Parser.foreachHeader stop ts) := by
  rw [foreachHeader, Parser.foreachHeader]
  refine (expression_follows 0 h).read fun iterable _ _ rest _ h => ?_
  refine (asWord_follows h).read fun _ _ _ rest _ h => ?_
  refine (bindingName_follows h).read fun name _ _ rest _ h => ?_
  cases arrow : Parser.symbol? .fatArrow rest with
  | some read =>
    obtain ⟨_, _, eaten, h⟩ := h.eat_some arrow
    simp only [eaten, arrow, pure_bind]
    refine (bindingName_follows h).read fun value _ _ rest _ h => ?_
    exact (expectEnd_follows h).bind fun _ _ _ => .pure rfl
  | none =>
    simp only [h.eat_none arrow, arrow, pure_bind]
    exact (expectEnd_follows h).bind fun _ _ _ => .pure rfl

theorem forHeader_follows (h : At spots stop pos ts) :
    Follows (· = ·) (forHeader spots pos) (Parser.forHeader stop ts) := by
  rw [forHeader, Parser.forHeader]
  refine (clause_follows h).continued fun first _ _ rest _ h => ?_
  refine (expect_follows .semicolon h).read fun _ _ _ rest _ h => ?_
  refine (condition_follows h).read fun condition _ _ rest _ h => ?_
  refine (clause_follows h).continued fun step _ _ rest _ h => ?_
  exact (expectEnd_follows h).bind fun _ _ _ => .pure rfl

def parse (reader : List Spot → Nat → InPlace α) (text : List Char) : InPlace α := do
  reader (← Lexer.spotsFrom text [] 0 (text.length + 1)) 0

theorem parse_eq {reader : List Spot → Nat → InPlace α}
    {model : Nat → List Token → Except Error α}
    (same : ∀ {spots stop pos ts}, At spots stop pos ts →
      Follows (· = ·) (reader spots pos) (model stop ts)) (text : List Char) :
    parse reader text = of (Lexer.tokenize text >>= model (Text.byteLength text)) := by
  have read := Lexer.spotsFrom_eq false [] text [] rfl (Nat.lt_succ_self text.length)
  rw [List.nil_append, Text.byteLength_nil] at read
  rw [parse, read, Lexer.tokenize]
  cases Lexer.tokensAt false 0 text with
  | error e => rfl
  | ok ts => exact (same (At.start (Text.byteLength text) ts)).eq_of

theorem parse_wholeExpression (text : List Char) :
    parse wholeExpression text = of (Expr.parse text) :=
  parse_eq wholeExpression_follows text

theorem parse_statements (text : List Char) : parse statements text = of (Stmt.parseAll text) :=
  parse_eq statements_follows text

theorem parse_foreachHeader (text : List Char) :
    parse foreachHeader text = of (ForeachHeader.parse text) :=
  parse_eq foreachHeader_follows text

theorem parse_forHeader (text : List Char) : parse forHeader text = of (ForHeader.parse text) :=
  parse_eq forHeader_follows text

end Cursor

end Stencil
