import Stencil.Proofs.Expr.Orderly
import Stencil.Proofs.Expr.Precedence

namespace Stencil.Grammar
open Stencil.Parser

inductive BindingName : TokenKind → String → Prop
  | dollarName (name : String) : BindingName (.variable name) name
  | bareName {word} : isKeyword word = false → BindingName (.ident word) word

inductive AssignSign : TokenKind → AssignOp → Prop
  | set : AssignSign (.symbol .assign) .set
  | add : AssignSign (.symbol .plusAssign) .add
  | sub : AssignSign (.symbol .minusAssign) .sub
  | concat : AssignSign (.symbol .tildeAssign) .concat

inductive Separator : TokenKind → Prop
  | semicolon : Separator (.symbol .semicolon)
  | comma : Separator (.symbol .comma)

inductive DerivesStmt : List TokenKind → Stmt → Prop
  | assign {k name sign op ts e} : BindingName k name → AssignSign sign op → Derives .choice ts e →
      DerivesStmt (k :: sign :: ts) (.assign name op e)
  | increment {k name} : BindingName k name → DerivesStmt [k, .symbol .increment] (.increment name)
  | decrement {k name} : BindingName k name → DerivesStmt [k, .symbol .decrement] (.decrement name)
  | incrementFirst {k name} : BindingName k name →
      DerivesStmt [.symbol .increment, k] (.increment name)
  | decrementFirst {k name} : BindingName k name →
      DerivesStmt [.symbol .decrement, k] (.decrement name)
  | expr {ts e} : Derives .choice ts e → DerivesStmt ts (.expr e)

inductive DerivesStmts : List TokenKind → List Stmt → Prop
  | nil : DerivesStmts [] []
  | separator {k ts ss} : Separator k → DerivesStmts ts ss → DerivesStmts (k :: ts) ss
  | last {ts s} : DerivesStmt ts s → DerivesStmts ts [s]
  | next {ts s k us ss} : DerivesStmt ts s → Separator k → DerivesStmts us ss →
      DerivesStmts (ts ++ k :: us) (s :: ss)

/-- The tokens spell a clause of a `for`: no statements, or some with commas between them. -/
inductive DerivesClause : List TokenKind → List Stmt → Prop
  | nil : DerivesClause [] []
  | last {ts s} : DerivesStmt ts s → DerivesClause ts [s]
  | next {ts s us ss} : DerivesStmt ts s → DerivesClause us ss → ss ≠ [] →
      DerivesClause (ts ++ .symbol .comma :: us) (s :: ss)

inductive DerivesCondition : List TokenKind → Option Expr → Prop
  | absent : DerivesCondition [] none
  | present {ts e} : Derives .choice ts e → DerivesCondition ts (some e)

inductive DerivesForeach : List TokenKind → ForeachHeader → Prop
  | value {ts e k name} : Derives .choice ts e → BindingName k name →
      DerivesForeach (ts ++ [.ident "as", k]) ⟨e, none, name⟩
  | pair {ts e k key l value} : Derives .choice ts e → BindingName k key → BindingName l value →
      DerivesForeach (ts ++ [.ident "as", k, .symbol .fatArrow, l]) ⟨e, some key, value⟩

inductive DerivesFor : List TokenKind → ForHeader → Prop
  | clauses {ts us vs first condition step} : DerivesClause ts first →
      DerivesCondition us condition → DerivesClause vs step →
      DerivesFor (ts ++ .symbol .semicolon :: (us ++ .symbol .semicolon :: vs))
        ⟨first, condition, step⟩

/-! ## Scanners can rely on them -/

theorem BindingName.quiet {k : TokenKind} {name : String} (h : BindingName k name) :
    isQuiet k = true := by
  cases h <;> rfl

theorem AssignSign.quiet {k : TokenKind} {op : AssignOp} (h : AssignSign k op) :
    isQuiet k = true := by
  cases h <;> rfl

theorem Separator.quiet {k : TokenKind} (h : Separator k) : isQuiet k = true := by
  cases h <;> rfl

theorem DerivesStmt.settled {ks : List TokenKind} {s : Stmt} (h : DerivesStmt ks s) :
    Settled ks := by
  cases h with
  | assign binds sign derived => exact .cons binds.quiet (.cons sign.quiet derived.orderly.toSettled)
  | increment binds | decrement binds => exact .cons binds.quiet (.cons rfl .nil)
  | incrementFirst binds | decrementFirst binds => exact .cons rfl (.cons binds.quiet .nil)
  | expr derived => exact derived.orderly.toSettled

theorem DerivesStmts.settled {ks : List TokenKind} {ss : List Stmt} (h : DerivesStmts ks ss) :
    Settled ks := by
  induction h with
  | nil => exact .nil
  | separator between _ ih => exact .cons between.quiet ih
  | last derived => exact derived.settled
  | next derived between _ ih => exact derived.settled.append (.cons between.quiet ih)

theorem DerivesClause.settled {ks : List TokenKind} {ss : List Stmt} (h : DerivesClause ks ss) :
    Settled ks := by
  induction h with
  | nil => exact .nil
  | last derived => exact derived.settled
  | next derived _ _ ih => exact derived.settled.append (.cons rfl ih)

theorem DerivesForeach.settled {ks : List TokenKind} {header : ForeachHeader}
    (h : DerivesForeach ks header) : Settled ks := by
  cases h with
  | value derived binds =>
    exact derived.orderly.toSettled.append (.cons rfl (.cons binds.quiet .nil))
  | pair derived binds bound =>
    have names := Settled.cons binds.quiet (.cons (k := .symbol .fatArrow) rfl (.cons bound.quiet .nil))
    exact derived.orderly.toSettled.append (.cons rfl names)

theorem DerivesCondition.settled {ks : List TokenKind} {condition : Option Expr}
    (h : DerivesCondition ks condition) : Settled ks := by
  cases h with
  | absent => exact .nil
  | present derived => exact derived.orderly.toSettled

theorem DerivesFor.settled {ks : List TokenKind} {header : ForHeader} (h : DerivesFor ks header) :
    Settled ks := by
  obtain ⟨initial, condition, step⟩ := h
  exact initial.settled.append (.cons rfl (condition.settled.append (.cons rfl step.settled)))

/-! ## Names and statements -/

variable {stop : Nat} {ts rest : List Token}

theorem reads_bindingName_iff {name : String} :
    Reads (bindingName stop ts) name rest ↔
      ∃ k offset, BindingName k name ∧ ts = ⟨k, offset⟩ :: rest := by
  unfold bindingName
  constructor
  · intro h
    split at h
    · next word offset us =>
      split at h
      · exact absurd h not_reads_error
      · next free =>
        obtain ⟨rfl, rfl⟩ := reads_ok.1 h
        exact ⟨_, offset, .bareName (by simpa using free), rfl⟩
    · next word offset us =>
      obtain ⟨rfl, rfl⟩ := reads_ok.1 h
      exact ⟨_, offset, .dollarName _, rfl⟩
    · exact absurd h not_reads_error
  · rintro ⟨k, offset, name, rfl⟩
    cases name with
    | dollarName => exact reads_ok.2 ⟨rfl, rfl⟩
    | bareName free => simp [free]

def Ends (ts : List Token) : Prop :=
  ∀ t ∈ ts.head?, Separator t.kind

theorem ends_cons {k : TokenKind} {offset : Nat} (h : Separator k) : Ends (⟨k, offset⟩ :: ts) := by
  intro t first
  cases first
  exact h

theorem Ends.stops {least : Nat} (h : Ends rest) : Stops least rest := by
  intro t first op found
  cases same : t.kind with
  | symbol s =>
    have separator := h t first
    rw [same] at separator found
    cases separator <;> cases found
  | _ =>
    have separator := h t first
    rw [same] at separator
    cases separator

theorem Ends.symbol?_eq_none {s : Symbol} (h : Ends rest) (other : ¬Separator (.symbol s)) :
    symbol? s rest = none := by
  refine symbol?_eq_none_iff.2 fun t first same => other ?_
  rw [← same]
  exact h t first

theorem isSeparator_iff {t : Token} : isSeparator t = true ↔ Separator t.kind := by
  obtain ⟨k, offset⟩ := t
  unfold isSeparator
  constructor
  · intro h
    split at h
    · next same => exact same ▸ .semicolon
    · next same => exact same ▸ .comma
    · cases h
  · intro h
    cases h <;> rfl

theorem derives_of_reads {e : Expr} (h : Reads (expression stop 0 ts) e rest) :
    ∃ front, ts = front ++ rest ∧ Derives .choice (front.map Token.kind) e := by
  obtain ⟨front, same, derived, -⟩ := expression_derives h (by decide)
  exact ⟨front, same, derived⟩

theorem Derives.reads_before {e : Expr} {ks : List TokenKind} (h : Derives .choice ks e)
    (kinds : ts.map Token.kind = ks) (stops : ∀ {least}, Stops least rest)
    (unapplied : symbol? .lParen rest = none) : Reads (expression stop 0 (ts ++ rest)) e rest :=
  h.reads kinds (Nat.zero_le _) stops unapplied (continues_here stops)

theorem change_of_assignSign {k : TokenKind} {op : AssignOp} :
    Change.ofToken? k = some (.assign op) ↔ AssignSign k op := by
  constructor
  · intro h
    unfold Change.ofToken? at h
    split at h <;> cases h <;> constructor
  · rintro ⟨⟩ <;> rfl

theorem announced?_eq_some {what : Change} (h : announced? ts = some what) :
    ∃ name next us, ts = name :: next :: us ∧ Change.ofToken? next.kind = some what := by
  unfold announced? at h
  split at h
  · split at h
    · exact ⟨_, _, _, rfl, h⟩
    · cases h
  · cases h

theorem reads_change {what : Change} {s : Stmt} {next : Token}
    (sign : Change.ofToken? next.kind = some what) {name : Token}
    (h : Reads (change stop what (name :: next :: ts)) s rest) :
    ∃ front, name :: next :: ts = front ++ rest ∧ DerivesStmt (front.map Token.kind) s := by
  unfold change at h
  simp only [reads_bind] at h
  obtain ⟨word, after, one, two⟩ := h
  obtain ⟨k, offset, binds, same⟩ := reads_bindingName_iff.1 one
  cases same
  cases what with
  | assign op =>
    simp only [reads_bind, reads_pure, exists_prop, List.tail_cons] at two
    obtain ⟨e, _, value, rfl, rfl⟩ := two
    obtain ⟨front, rfl, derived⟩ := derives_of_reads value
    exact ⟨⟨k, offset⟩ :: next :: front, rfl, .assign binds (change_of_assignSign.1 sign) derived⟩
  | increment =>
    obtain ⟨rfl, rfl⟩ := reads_pure.1 two
    refine ⟨[⟨k, offset⟩, next], rfl, ?_⟩
    unfold Change.ofToken? at sign
    split at sign <;> cases sign
    next same => simpa [same] using DerivesStmt.increment binds
  | decrement =>
    obtain ⟨rfl, rfl⟩ := reads_pure.1 two
    refine ⟨[⟨k, offset⟩, next], rfl, ?_⟩
    unfold Change.ofToken? at sign
    split at sign <;> cases sign
    next same => simpa [same] using DerivesStmt.decrement binds

theorem statement_derives {s : Stmt} (h : Reads (statement stop ts) s rest) :
    ∃ front, ts = front ++ rest ∧ DerivesStmt (front.map Token.kind) s := by
  unfold statement at h
  split at h
  · next found =>
    obtain ⟨offset, rfl⟩ := symbol?_eq_some found
    simp only [reads_bind, reads_pure, exists_prop] at h
    obtain ⟨name, _, one, rfl, rfl⟩ := h
    obtain ⟨k, place, binds, rfl⟩ := reads_bindingName_iff.1 one
    exact ⟨[⟨_, offset⟩, ⟨k, place⟩], rfl, .incrementFirst binds⟩
  · next found =>
    obtain ⟨offset, rfl⟩ := symbol?_eq_some found
    simp only [reads_bind, reads_pure, exists_prop] at h
    obtain ⟨name, _, one, rfl, rfl⟩ := h
    obtain ⟨k, place, binds, rfl⟩ := reads_bindingName_iff.1 one
    exact ⟨[⟨_, offset⟩, ⟨k, place⟩], rfl, .decrementFirst binds⟩
  · split at h
    · next what announced =>
      obtain ⟨name, next, us, rfl, sign⟩ := announced?_eq_some announced
      exact reads_change sign h
    · unfold plainStatement at h
      simp only [reads_bind, reads_pure, exists_prop] at h
      obtain ⟨e, _, one, rfl, rfl⟩ := h
      obtain ⟨front, rfl, derived⟩ := derives_of_reads one
      exact ⟨front, rfl, .expr derived⟩

theorem BindingName.isNameToken {k : TokenKind} {name : String} (h : BindingName k name) :
    isNameToken k = true := by
  cases h <;> rfl

theorem statement_of_announced {name next : Token} {what : Change}
    (named : isNameToken name.kind = true) (sign : Change.ofToken? next.kind = some what) :
    statement stop (name :: next :: ts) = change stop what (name :: next :: ts) := by
  obtain ⟨k, offset⟩ := name
  have noIncrement : symbol? .increment (⟨k, offset⟩ :: next :: ts) = none := by
    refine symbol?_eq_none_iff.2 fun t first same => ?_
    cases first
    cases same
    cases named
  have noDecrement : symbol? .decrement (⟨k, offset⟩ :: next :: ts) = none := by
    refine symbol?_eq_none_iff.2 fun t first same => ?_
    cases first
    cases same
    cases named
  unfold statement
  simp only [noIncrement, noDecrement, announced?, named, if_true, sign]

theorem Derives.announced?_eq_none {e : Expr} {ks : List TokenKind} (h : Derives .choice ks e)
    (kinds : ts.map Token.kind = ks) (ends : Ends rest) : announced? (ts ++ rest) = none := by
  unfold announced?
  split
  · next name next us same =>
    refine ite_eq_right_iff.2 fun _ => ?_
    match ts, same with
    | [], same =>
      obtain ⟨k, ls, none, -⟩ := h.begun
      rw [← kinds] at none
      cases none
    | [t], same =>
      cases same
      have separator := ends next rfl
      cases kind : next.kind with
      | symbol s =>
        rw [kind] at separator
        cases separator <;> rfl
      | _ => rfl
    | t :: u :: ts, same =>
      cases same
      refine h.orderly.unchanging _ ?_
      rw [← kinds]
      simp
  · rfl

theorem statement_of_derives {e : Expr} {ks : List TokenKind} (h : Derives .choice ks e)
    (kinds : ts.map Token.kind = ks) (ends : Ends rest) :
    statement stop (ts ++ rest) = plainStatement stop (ts ++ rest) := by
  have begun : Begun (ts.map Token.kind) := kinds ▸ h.begun
  have noIncrement : symbol? .increment (ts ++ rest) = none := symbol?_eq_none_of_begun begun rfl
  have noDecrement : symbol? .decrement (ts ++ rest) = none := symbol?_eq_none_of_begun begun rfl
  unfold statement
  simp only [noIncrement, noDecrement, h.announced?_eq_none kinds ends]

theorem DerivesStmt.reads {s : Stmt} {ks : List TokenKind} (h : DerivesStmt ks s)
    (kinds : ts.map Token.kind = ks) (ends : Ends rest) :
    Reads (statement stop (ts ++ rest)) s rest := by
  have unapplied := ends.symbol?_eq_none (s := .lParen) nofun
  cases h with
  | assign binds sign derived =>
    obtain ⟨offset, us, rfl, ku⟩ := map_kind_eq_cons kinds
    obtain ⟨place, vs, rfl, kv⟩ := map_kind_eq_cons ku
    rw [List.cons_append, List.cons_append,
      statement_of_announced binds.isNameToken (change_of_assignSign.2 sign)]
    unfold change
    simp only [reads_bind, reads_pure, exists_prop]
    refine ⟨_, _, reads_bindingName_iff.2 ⟨_, offset, binds, rfl⟩, _, rest, ?_, rfl, rfl⟩
    exact derived.reads_before kv ends.stops unapplied
  | increment binds =>
    obtain ⟨offset, us, rfl, ku⟩ := map_kind_eq_cons kinds
    obtain ⟨place, rfl⟩ := map_kind_eq_singleton ku
    rw [List.cons_append, List.singleton_append, statement_of_announced binds.isNameToken rfl]
    unfold change
    simp only [reads_bind, reads_pure, exists_prop]
    exact ⟨_, _, reads_bindingName_iff.2 ⟨_, offset, binds, rfl⟩, rfl, rfl⟩
  | decrement binds =>
    obtain ⟨offset, us, rfl, ku⟩ := map_kind_eq_cons kinds
    obtain ⟨place, rfl⟩ := map_kind_eq_singleton ku
    rw [List.cons_append, List.singleton_append, statement_of_announced binds.isNameToken rfl]
    unfold change
    simp only [reads_bind, reads_pure, exists_prop]
    exact ⟨_, _, reads_bindingName_iff.2 ⟨_, offset, binds, rfl⟩, rfl, rfl⟩
  | incrementFirst binds =>
    obtain ⟨offset, us, rfl, ku⟩ := map_kind_eq_cons kinds
    obtain ⟨place, rfl⟩ := map_kind_eq_singleton ku
    unfold statement
    simp only [List.cons_append, symbol?_cons, reads_bind, reads_pure, exists_prop]
    exact ⟨_, _, reads_bindingName_iff.2 ⟨_, place, binds, rfl⟩, rfl, rfl⟩
  | decrementFirst binds =>
    obtain ⟨offset, us, rfl, ku⟩ := map_kind_eq_cons kinds
    obtain ⟨place, rfl⟩ := map_kind_eq_singleton ku
    have other : ∀ us, symbol? .increment (⟨.symbol .decrement, offset⟩ :: us) = none := fun _ => rfl
    unfold statement
    simp only [List.cons_append, List.nil_append, other, symbol?_cons, reads_bind, reads_pure, exists_prop]
    exact ⟨_, _, reads_bindingName_iff.2 ⟨_, place, binds, rfl⟩, rfl, rfl⟩
  | expr derived =>
    rw [statement_of_derives derived kinds ends]
    unfold plainStatement
    simp only [reads_bind, reads_pure, exists_prop]
    exact ⟨_, _, derived.reads_before kinds ends.stops unapplied, rfl, rfl⟩

/-! ## Lists of statements -/

theorem statements_cons_iff {t : Token} {ss : List Stmt} (other : ¬Separator t.kind) :
    statements stop (t :: ts) = .ok ss ↔
      ∃ s behind, Reads (statement stop (t :: ts)) s behind ∧ (behind = [] ∧ ss = [s] ∨
        ∃ u us more, behind = u :: us ∧ Separator u.kind ∧ statements stop us = .ok more ∧
          ss = s :: more) := by
  rw [statements, if_neg fun between => other (isSeparator_iff.1 between), bind_read_eq_ok]
  constructor
  · rintro ⟨s, behind, one, two⟩
    refine ⟨s, behind, one, ?_⟩
    cases behind with
    | nil =>
      cases two
      exact .inl ⟨rfl, rfl⟩
    | cons u us =>
      by_cases between : isSeparator u = true
      · simp only [between, if_true] at two
        obtain ⟨more, three, same⟩ := bind_eq_ok.1 two
        cases same
        exact .inr ⟨u, us, more, rfl, isSeparator_iff.1 between, three, rfl⟩
      · simp only [if_neg between] at two
        cases two
  · rintro ⟨s, behind, one, ⟨rfl, rfl⟩ | ⟨u, us, more, rfl, between, two, rfl⟩⟩
    · exact ⟨s, [], one, rfl⟩
    · refine ⟨s, _, one, ?_⟩
      simp only [isSeparator_iff.2 between, if_true, two]
      rfl

theorem statements_derive {ts : List Token} {ss : List Stmt} (h : statements stop ts = .ok ss) :
    DerivesStmts (ts.map Token.kind) ss := by
  match ts with
  | [] =>
    rw [statements] at h
    cases h
    exact .nil
  | t :: ts =>
    by_cases between : Separator t.kind
    · rw [statements, if_pos (isSeparator_iff.2 between)] at h
      exact .separator between (statements_derive h)
    · obtain ⟨s, behind, one, rest⟩ := (statements_cons_iff between).1 h
      obtain ⟨front, same, derived⟩ := statement_derives one
      rw [same, List.map_append]
      rcases rest with ⟨rfl, rfl⟩ | ⟨u, us, more, rfl, after, two, rfl⟩
      · rw [List.map_nil, List.append_nil]
        exact .last derived
      · have fewer : us.length < (t :: ts).length := Nat.lt_of_succ_lt one.shorter
        exact .next derived after (statements_derive two)
termination_by ts.length
decreasing_by
  · exact Nat.lt_succ_self _
  · exact fewer

theorem DerivesStmt.begins {s : Stmt} {ks : List TokenKind} (h : DerivesStmt ks s) :
    ∃ k ls, ks = k :: ls ∧ ¬Separator k := by
  cases h with
  | assign binds | increment binds | decrement binds =>
    refine ⟨_, _, rfl, ?_⟩
    rintro ⟨⟩ <;> cases binds
  | incrementFirst | decrementFirst => exact ⟨_, _, rfl, nofun⟩
  | expr derived =>
    obtain ⟨k, ls, rfl, begins⟩ := derived.begun
    refine ⟨k, ls, rfl, ?_⟩
    rintro ⟨⟩ <;> cases begins

theorem DerivesStmts.reads {ks : List TokenKind} {ss : List Stmt} (h : DerivesStmts ks ss) :
    ∀ {ts : List Token}, ts.map Token.kind = ks → statements stop ts = .ok ss := by
  induction h with
  | nil =>
    intro ts kinds
    obtain rfl := List.map_eq_nil_iff.1 kinds
    rw [statements]
  | separator between _ ih =>
    intro ts kinds
    obtain ⟨offset, us, rfl, ku⟩ := map_kind_eq_cons kinds
    rw [statements, if_pos (isSeparator_iff.2 between)]
    exact ih ku
  | last derived =>
    intro ts kinds
    obtain ⟨k, ls, rfl, other⟩ := derived.begins
    have ends : Ends [] := by
      rintro t ⟨⟩
    have one : Reads (statement stop (ts ++ [])) _ [] := derived.reads kinds ends
    obtain ⟨offset, us, rfl, -⟩ := map_kind_eq_cons kinds
    rw [List.append_nil] at one
    exact (statements_cons_iff other).2 ⟨_, [], one, .inl ⟨rfl, rfl⟩⟩
  | next derived between _ ih =>
    intro ts kinds
    obtain ⟨front, offset, behind, rfl, kf, kb⟩ := map_kind_eq_append_cons kinds
    obtain ⟨k, ls, rfl, other⟩ := derived.begins
    have one : Reads (statement stop (front ++ ⟨_, offset⟩ :: behind)) _ (⟨_, offset⟩ :: behind) :=
      derived.reads kf (ends_cons between)
    obtain ⟨place, us, rfl, -⟩ := map_kind_eq_cons kf
    exact (statements_cons_iff other).2 ⟨_, _, one, .inr ⟨_, _, _, rfl, between, ih kb, rfl⟩⟩

theorem statements_eq_ok_iff {ss : List Stmt} :
    statements stop ts = .ok ss ↔ DerivesStmts (ts.map Token.kind) ss :=
  ⟨statements_derive, fun derived => derived.reads rfl⟩

/-! ## Headers -/

theorem reads_clauseTail_iff {ts : List Token} {ss : List Stmt} :
    Reads (clauseTail stop ts) ss rest ↔
      ∃ s middle, Reads (statement stop ts) s middle ∧
        ((∃ offset us more, middle = ⟨.symbol .comma, offset⟩ :: us ∧
          Reads (clauseTail stop us) more rest ∧ ss = s :: more) ∨
        symbol? .comma middle = none ∧ rest = middle ∧ ss = [s]) := by
  rw [clauseTail]
  simp only [reads_bind]
  constructor
  · rintro ⟨s, middle, one, two⟩
    refine ⟨s, middle, one, ?_⟩
    split at two
    · next found =>
      obtain ⟨offset, rfl⟩ := symbol?_eq_some found
      simp only [reads_bind, reads_pure, exists_prop] at two
      obtain ⟨more, _, tail, rfl, rfl⟩ := two
      exact .inl ⟨offset, _, more, rfl, tail, rfl⟩
    · next absent =>
      obtain ⟨rfl, rfl⟩ := reads_pure.1 two
      exact .inr ⟨absent, rfl, rfl⟩
  · rintro ⟨s, middle, one, ⟨offset, us, more, rfl, tail, rfl⟩ | ⟨absent, rfl, rfl⟩⟩
    · refine ⟨s, _, one, ?_⟩
      simp only [symbol?_cons, reads_bind, reads_pure, exists_prop]
      exact ⟨more, _, tail, rfl, rfl⟩
    · refine ⟨s, _, one, ?_⟩
      split
      · next found =>
        rw [absent] at found
        cases found
      · exact reads_pure.2 ⟨rfl, rfl⟩

theorem clauseTail_derives {ts rest : List Token} {ss : List Stmt}
    (h : Reads (clauseTail stop ts) ss rest) :
    ∃ front, ts = front ++ rest ∧ DerivesClause (front.map Token.kind) ss ∧ ss ≠ [] := by
  obtain ⟨s, middle, one, ⟨offset, us, more, rfl, tail, rfl⟩ | ⟨-, rfl, rfl⟩⟩ :=
    reads_clauseTail_iff.1 h
  · have fewer := one.shorter
    simp only [List.length_cons] at fewer
    obtain ⟨front, rfl, derived⟩ := statement_derives one
    obtain ⟨behind, rfl, others, nonempty⟩ := clauseTail_derives tail
    refine ⟨front ++ ⟨.symbol .comma, offset⟩ :: behind, by simp, ?_, by simp⟩
    simpa using DerivesClause.next derived others nonempty
  · obtain ⟨front, rfl, derived⟩ := statement_derives one
    exact ⟨front, rfl, .last derived, by simp⟩
termination_by ts.length

def EndsClause (ts : List Token) : Prop :=
  ∀ t ∈ ts.head?, t.kind = .symbol .semicolon

theorem EndsClause.ends (h : EndsClause rest) : Ends rest :=
  fun t first => h t first ▸ .semicolon

theorem DerivesClause.reads_clauseTail {ks : List TokenKind} {ss : List Stmt}
    (h : DerivesClause ks ss) (ends : EndsClause rest) (nonempty : ss ≠ []) :
    ∀ {ts : List Token}, ts.map Token.kind = ks → Reads (clauseTail stop (ts ++ rest)) ss rest := by
  induction h with
  | nil => exact absurd rfl nonempty
  | last derived =>
    intro ts kinds
    have absent : symbol? .comma rest = none := by
      refine symbol?_eq_none_iff.2 fun t first same => ?_
      rw [ends t first] at same
      cases same
    exact reads_clauseTail_iff.2 ⟨_, rest, derived.reads kinds ends.ends, .inr ⟨absent, rfl, rfl⟩⟩
  | next derived _ more ih =>
    intro ts kinds
    obtain ⟨front, offset, behind, rfl, kf, kb⟩ := map_kind_eq_append_cons kinds
    have one : Reads (statement stop (front ++ ⟨.symbol .comma, offset⟩ :: (behind ++ rest))) _
        (⟨.symbol .comma, offset⟩ :: (behind ++ rest)) := derived.reads kf (ends_cons .comma)
    rw [List.append_assoc, List.cons_append]
    exact reads_clauseTail_iff.2 ⟨_, _, one, .inl ⟨offset, _, _, rfl, ih more kb, rfl⟩⟩

theorem clause_derives {ss : List Stmt} (h : Continues (clause stop ts) ss rest) :
    ∃ front, ts = front ++ rest ∧ DerivesClause (front.map Token.kind) ss := by
  unfold clause at h
  split at h
  · obtain ⟨rfl, rfl⟩ := continues_ok.1 h
    exact ⟨[], rfl, .nil⟩
  · split at h
    · obtain ⟨rfl, rfl⟩ := continues_ok.1 h
      exact ⟨[], rfl, .nil⟩
    · simp only [continues_bind, continues_pure, exists_prop] at h
      obtain ⟨ss, _, one, rfl, rfl⟩ := h
      obtain ⟨front, same, derived, -⟩ := clauseTail_derives one
      exact ⟨front, same, derived⟩

theorem DerivesClause.begins {ks : List TokenKind} {ss : List Stmt} (h : DerivesClause ks ss)
    (nonempty : ss ≠ []) : ∃ k ls, ks = k :: ls ∧ ¬Separator k := by
  cases h with
  | nil => exact absurd rfl nonempty
  | last derived => exact derived.begins
  | next derived _ _ =>
    obtain ⟨k, ls, rfl, other⟩ := derived.begins
    exact ⟨k, _, rfl, other⟩

theorem DerivesClause.reads {ks : List TokenKind} {ss : List Stmt} (h : DerivesClause ks ss)
    (kinds : ts.map Token.kind = ks) (ends : EndsClause rest) :
    Continues (clause stop (ts ++ rest)) ss rest := by
  by_cases empty : ss = []
  · subst empty
    cases h with
    | nil =>
      obtain rfl := List.map_eq_nil_iff.1 kinds
      cases rest with
      | nil => exact continues_ok.2 ⟨rfl, rfl⟩
      | cons t us =>
        obtain ⟨k, offset⟩ := t
        cases ends _ rfl
        rw [List.nil_append, clause]
        simp
  · obtain ⟨k, ls, rfl, other⟩ := h.begins empty
    have tail : Reads (clauseTail stop (ts ++ rest)) ss rest :=
      h.reads_clauseTail ends empty kinds
    obtain ⟨offset, us, rfl, -⟩ := map_kind_eq_cons kinds
    have absent : symbol? .semicolon (⟨k, offset⟩ :: (us ++ rest)) = none := by
      refine symbol?_eq_none_iff.2 fun t first same => ?_
      cases first
      cases same
      exact other .semicolon
    rw [List.cons_append] at tail ⊢
    unfold clause
    simp only [absent, continues_bind, continues_pure, exists_prop]
    exact ⟨_, _, tail, rfl, rfl⟩

theorem reads_condition_iff {condition : Option Expr} :
    Reads (Parser.condition stop ts) condition rest ↔
      ∃ front offset, ts = front ++ ⟨.symbol .semicolon, offset⟩ :: rest ∧
        DerivesCondition (front.map Token.kind) condition := by
  unfold Parser.condition
  constructor
  · intro h
    split at h
    · next found =>
      obtain ⟨offset, rfl⟩ := symbol?_eq_some found
      obtain ⟨rfl, rfl⟩ := reads_ok.1 h
      exact ⟨[], offset, rfl, .absent⟩
    · simp only [reads_bind, reads_pure, reads_symbol_iff, exists_prop] at h
      obtain ⟨e, _, one, _, _, ⟨offset, rfl⟩, rfl, rfl⟩ := h
      obtain ⟨front, rfl, derived⟩ := derives_of_reads one
      exact ⟨front, offset, rfl, .present derived⟩
  · rintro ⟨front, offset, rfl, derived⟩
    generalize kinds : front.map Token.kind = ks at derived
    cases derived with
    | absent =>
      obtain rfl := List.map_eq_nil_iff.1 kinds
      simp
    | present derived =>
      have begun : Begun (front.map Token.kind) := kinds ▸ derived.begun
      have one : Reads (expression stop 0 (front ++ ⟨.symbol .semicolon, offset⟩ :: rest)) _
          (⟨.symbol .semicolon, offset⟩ :: rest) := derived.reads_before kinds (stops_cons rfl) rfl
      simp only [symbol?_eq_none_of_begun (s := .semicolon) begun rfl, reads_bind, reads_pure,
        reads_symbol_iff, exists_prop]
      exact ⟨_, _, one, (), _, ⟨offset, rfl⟩, rfl, rfl⟩

theorem forHeader_eq_ok_iff {header : ForHeader} :
    forHeader stop ts = .ok header ↔ DerivesFor (ts.map Token.kind) header := by
  unfold forHeader
  simp only [bind_continued_eq_ok, bind_read_eq_ok, exists_prop, reads_symbol_iff,
    reads_condition_iff]
  constructor
  · rintro ⟨first, _, one, _, _, ⟨offset, rfl⟩, condition, _, ⟨us, place, rfl, two⟩, step, last,
      three, ended⟩
    obtain ⟨front, rfl, initial⟩ := clause_derives one
    obtain ⟨back, rfl, final⟩ := clause_derives three
    obtain ⟨u, none, same⟩ := bind_eq_ok.1 ended
    obtain rfl := ending_eq_ok_iff.1 none
    cases same
    simpa using DerivesFor.clauses initial two final
  · intro derived
    generalize kinds : ts.map Token.kind = ks at derived
    cases derived with
    | clauses initial two final =>
      obtain ⟨front, offset, behind, rfl, kf, kb⟩ := map_kind_eq_append_cons kinds
      obtain ⟨us, place, back, rfl, ku, kv⟩ := map_kind_eq_append_cons kb
      have one : Continues (clause stop (front ++
          ⟨.symbol .semicolon, offset⟩ :: (us ++ ⟨.symbol .semicolon, place⟩ :: back))) _ _ :=
        initial.reads kf (by rintro t ⟨⟩; rfl)
      have three : Continues (clause stop (back ++ [])) _ [] := final.reads kv nofun
      rw [List.append_nil] at three
      exact ⟨_, _, one, (), _, ⟨offset, rfl⟩, _, back, ⟨us, place, rfl, ku ▸ two⟩, _, [], three, rfl⟩

theorem reads_asWord_iff {u : Unit} :
    Reads (asWord stop ts) u rest ↔ ∃ offset, ts = ⟨.ident "as", offset⟩ :: rest := by
  unfold asWord
  constructor
  · intro h
    split at h
    · next word offset us =>
      split at h
      · next spelled =>
        obtain rfl := Keyword.ofText?_eq_some_iff.1 spelled
        obtain ⟨-, rfl⟩ := reads_ok.1 h
        exact ⟨offset, rfl⟩
      · exact absurd h not_reads_error
    · exact absurd h not_reads_error
  · rintro ⟨offset, rfl⟩
    simp [Keyword.ofText?]

theorem Derives.reads_before_as {e : Expr} {ks : List TokenKind} {offset : Nat} {us : List Token}
    (h : Derives .choice ks e) (kinds : ts.map Token.kind = ks) :
    Reads (expression stop 0 (ts ++ ⟨.ident "as", offset⟩ :: us)) e (⟨.ident "as", offset⟩ :: us) :=
  h.reads_before kinds (stops_cons rfl) rfl

theorem foreachHeader_eq_ok_iff {header : ForeachHeader} :
    foreachHeader stop ts = .ok header ↔ DerivesForeach (ts.map Token.kind) header := by
  unfold foreachHeader
  simp only [bind_read_eq_ok, exists_prop, reads_asWord_iff, reads_bindingName_iff]
  constructor
  · rintro ⟨e, _, one, _, _, ⟨offset, rfl⟩, name, behind, ⟨k, place, binds, rfl⟩, two⟩
    obtain ⟨front, rfl, derived⟩ := derives_of_reads one
    split at two
    · next found =>
      obtain ⟨arrow, rfl⟩ := symbol?_eq_some found
      simp only [bind_read_eq_ok, exists_prop, reads_bindingName_iff] at two
      obtain ⟨value, _, ⟨l, last, bound, rfl⟩, ended⟩ := two
      obtain ⟨u, none, same⟩ := bind_eq_ok.1 ended
      obtain rfl := ending_eq_ok_iff.1 none
      cases same
      simpa using DerivesForeach.pair derived binds bound
    · obtain ⟨u, none, same⟩ := bind_eq_ok.1 two
      obtain rfl := ending_eq_ok_iff.1 none
      cases same
      simpa using DerivesForeach.value derived binds
  · intro derived
    generalize kinds : ts.map Token.kind = ks at derived
    cases derived with
    | value derived binds =>
      obtain ⟨front, offset, behind, rfl, kf, kb⟩ := map_kind_eq_append_cons kinds
      obtain ⟨place, rfl⟩ := map_kind_eq_singleton kb
      exact ⟨_, _, derived.reads_before_as kf, (), _, ⟨offset, rfl⟩, _, [], ⟨_, place, binds, rfl⟩, rfl⟩
    | pair derived binds bound =>
      obtain ⟨front, offset, behind, rfl, kf, kb⟩ := map_kind_eq_append_cons kinds
      obtain ⟨place, us, rfl, ku⟩ := map_kind_eq_cons kb
      obtain ⟨arrow, vs, rfl, kv⟩ := map_kind_eq_cons ku
      obtain ⟨last, rfl⟩ := map_kind_eq_singleton kv
      refine ⟨_, _, derived.reads_before_as kf, (), _, ⟨offset, rfl⟩, _, _, ⟨_, place, binds, rfl⟩, ?_⟩
      simp only [symbol?_cons, bind_read_eq_ok, exists_prop, reads_bindingName_iff]
      exact ⟨_, [], ⟨_, last, bound, rfl⟩, rfl⟩

end Stencil.Grammar
