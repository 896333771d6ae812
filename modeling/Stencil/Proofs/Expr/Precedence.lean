import Stencil.Proofs.Expr.Readers

/-!
# One loop for all strata

The reader of expressions knows the strata only by their levels. What it reads at a level is derived on
the stratum of the level (`expression_derives`), and what is derived on a stratum it reads at every
level up to that of the stratum (`Derives.reads`), as long as nothing that binds as tightly comes next.
Together: `wholeExpression_eq_ok_iff`.
-/

namespace Stencil.Grammar
open Stencil.Parser

variable {stop least : Nat} {ts rest : List Token} {e left : Expr}

theorem member_of_not_path {segment : Segment} (h : ∀ p, e ≠ .path p) :
    member e segment = .member e segment := by
  unfold member
  split
  · exact absurd rfl (h _)
  · rfl

/-! ## Levels of strata -/

def levelOf : Stratum → Nat
  | .choice => 1
  | .fallback => 2
  | .disjunction => 3
  | .conjunction => 4
  | .equality => 5
  | .comparison => 6
  | .concatenation => 7
  | .sum => 8
  | .product => 9
  | .signed => 10
  | .access => 11
  | .atom => 12

/-- The least level of an operator that must not follow an expression of the stratum. It is the level
itself where equals group to the right. -/
def limitOf : Stratum → Nat
  | .choice => 1
  | .fallback => 2
  | .signed => 10
  | s => levelOf s + 1

def stratumOf : Nat → Stratum
  | 0 | 1 => .choice
  | 2 => .fallback
  | 3 => .disjunction
  | 4 => .conjunction
  | 5 => .equality
  | 6 => .comparison
  | 7 => .concatenation
  | 8 => .sum
  | 9 => .product
  | 10 => .signed
  | 11 => .access
  | _ => .atom

theorem levelOf_le_tighter (s : Stratum) : levelOf s ≤ levelOf s.tighter := by
  cases s <;> decide

theorem limitOf_le_tighter (s : Stratum) : limitOf s ≤ limitOf s.tighter := by
  cases s <;> decide

theorem limitOf_le (s : Stratum) : limitOf s ≤ levelOf s + 1 := by
  cases s <;> decide

theorem levelOf_tighter {s t : Stratum} (h : levelOf t < levelOf s) :
    levelOf t.tighter = levelOf t + 1 := by
  cases t <;> simp [levelOf, Stratum.tighter] at h ⊢
  cases s <;> simp at h

theorem eq_of_levelOf_eq {s t : Stratum} (h : levelOf s = levelOf t) : s = t := by
  cases s <;> cases t <;> simp [levelOf] at h <;> rfl

theorem Derives.loosen {s t : Stratum} {ks : List TokenKind} (h : Derives s ks e)
    (le : levelOf t ≤ levelOf s) : Derives t ks e := by
  rcases Nat.lt_or_eq_of_le le with lt | same
  · have next := levelOf_tighter lt
    exact .looser (h.loosen (by omega))
  · exact eq_of_levelOf_eq same ▸ h
termination_by levelOf s - levelOf t

theorem levelOf_stratumOf_le (least : Nat) : levelOf (stratumOf least) ≤ max least 1 := by
  match least with
  | 0 | 1 | 2 | 3 | 4 | 5 | 6 | 7 | 8 | 9 | 10 | 11 => decide
  | n + 12 =>
    simp only [stratumOf, levelOf]
    omega

theorem Joint.infix {s : Stratum} {k : TokenKind} {op : LeftOp} (h : Joint s k op) :
    ∃ i, Infix.ofToken? k = some i ∧ i.level = levelOf s ∧ limitOf s = levelOf s + 1 ∧
      ∀ {stop left ts e rest}, Reads (application stop i left ts) e rest ↔
        ∃ r, Reads (expression stop (levelOf s.tighter) ts) r rest ∧ e = op.join left r := by
  cases h with
  | orSign | orWord | andSign | andWord => exact ⟨_, rfl, rfl, rfl, reads_logical_iff⟩
  | _ => exact ⟨_, rfl, rfl, rfl, reads_binary_iff⟩

/-! ## Derived expressions are read -/

theorem map_kind_eq_cons {k : TokenKind} {ks : List TokenKind} (h : ts.map Token.kind = k :: ks) :
    ∃ offset us, ts = ⟨k, offset⟩ :: us ∧ us.map Token.kind = ks := by
  obtain ⟨t, us, rfl, rfl, rest⟩ := List.map_eq_cons_iff.1 h
  exact ⟨t.offset, us, rfl, rest⟩

theorem map_kind_eq_append_cons {k : TokenKind} {ls rs : List TokenKind}
    (h : ts.map Token.kind = ls ++ k :: rs) :
    ∃ before offset behind, ts = before ++ ⟨k, offset⟩ :: behind ∧ before.map Token.kind = ls ∧
      behind.map Token.kind = rs := by
  obtain ⟨before, us, rfl, left, right⟩ := List.map_eq_append_iff.1 h
  obtain ⟨offset, behind, rfl, after⟩ := map_kind_eq_cons right
  exact ⟨before, offset, behind, rfl, left, after⟩

theorem map_kind_eq_singleton {k : TokenKind} (h : ts.map Token.kind = [k]) :
    ∃ offset, ts = [⟨k, offset⟩] := by
  obtain ⟨offset, us, rfl, none⟩ := map_kind_eq_cons h
  exact ⟨offset, by rw [List.map_eq_nil_iff.1 none]⟩

theorem map_kind_eq_append_singleton {k : TokenKind} {ls : List TokenKind}
    (h : ts.map Token.kind = ls ++ [k]) :
    ∃ before offset, ts = before ++ [⟨k, offset⟩] ∧ before.map Token.kind = ls := by
  obtain ⟨before, offset, behind, rfl, left, none⟩ := map_kind_eq_append_cons h
  exact ⟨before, offset, by rw [List.map_eq_nil_iff.1 none], left⟩

theorem reads_member_of_name {k : TokenKind} {word : String} {offset : Nat}
    (name : MemberName k word) :
    Reads (application stop .member left (⟨k, offset⟩ :: rest)) (member left (.ofText word)) rest :=
  reads_member_iff.2 ⟨_, reads_memberName_iff.2 ⟨_, _, offset, name, rfl, rfl⟩, rfl⟩

theorem stops_operator {t : Token} {op : Infix} (found : Infix.ofToken? t.kind = some op)
    (loose : op.level < least) : Stops least (t :: ts) := by
  intro u first other same
  cases first
  rw [found] at same
  cases same
  exact loose

theorem continues_here (stops : Stops least rest) :
    Continues (continuation stop least e rest) e rest :=
  (continues_of_stops stops).2 ⟨rfl, rfl⟩

theorem reads_of_operand {whole : Expr} {last : List Token} (one : Reads (operand stop ts) e rest)
    (continued : Continues (continuation stop least e rest) whole last) :
    Reads (expression stop least ts) whole last :=
  reads_expression_iff.2 ⟨e, rest, one, continued⟩

theorem symbol?_eq_none_of_begun {s : Symbol} (begun : Begun (ts.map Token.kind))
    (other : beginsOperand (.symbol s) = false) : symbol? s (ts ++ rest) = none := by
  obtain ⟨k, ks, same, begins⟩ := begun
  obtain ⟨offset, us, rfl, -⟩ := map_kind_eq_cons same
  refine symbol?_eq_none_iff.2 fun t first equal => ?_
  cases first
  cases equal
  rw [other] at begins
  cases begins

mutual

theorem Derives.reads {s : Stratum} {ks : List TokenKind} {e whole : Expr} {stop least : Nat}
    {ts rest last : List Token} (h : Derives s ks e) (kinds : ts.map Token.kind = ks)
    (le : least ≤ levelOf s) (stops : Stops (limitOf s) rest) (unapplied : symbol? .lParen rest = none)
    (continued : Continues (continuation stop least e rest) whole last) :
    Reads (expression stop least (ts ++ rest)) whole last := by
  -- The loop goes on from what it has read, so the left side of an operator is read with the
  -- operator and its right side as what continues it.
  match h with
  | .looser h =>
    exact Derives.reads h kinds (Nat.le_trans le (levelOf_le_tighter s))
      (stops.mono (limitOf_le_tighter s)) unapplied continued
  | .choice hc hy hn =>
    obtain ⟨cs, question, us, rfl, kc, inner⟩ := map_kind_eq_append_cons kinds
    obtain ⟨ys, colon, ns, rfl, ky, kn⟩ := map_kind_eq_append_cons inner
    rw [List.append_assoc, List.cons_append, List.append_assoc, List.cons_append]
    refine Derives.reads hc kc (Nat.le_succ_of_le le)
      (stops_operator rfl (by decide)) rfl ?_
    refine (continues_cons_iff rfl le).2 ⟨_, rest, ?_, continued⟩
    refine reads_conditional_iff.2 ⟨_, _, colon, ns ++ rest, ?_, ?_, rfl⟩
    · exact Derives.reads hy ky (Nat.zero_le _) (stops_cons rfl) rfl (continues_here (stops_cons rfl))
    · exact Derives.reads hn kn (Nat.le_refl _) stops unapplied (continues_here stops)
  | .fallback hl hr =>
    obtain ⟨ls, coalesce, rs, rfl, kl, kr⟩ := map_kind_eq_append_cons kinds
    rw [List.append_assoc, List.cons_append]
    refine Derives.reads hl kl (Nat.le_succ_of_le le)
      (stops_operator rfl (by decide)) rfl ?_
    refine (continues_cons_iff rfl le).2 ⟨_, rest, ?_, continued⟩
    refine reads_logical_iff.2 ⟨_, ?_, rfl⟩
    exact Derives.reads hr kr (Nat.le_refl _) stops unapplied (continues_here stops)
  | .joint (k := k) joint hl hr =>
    obtain ⟨ls, offset, rs, rfl, kl, kr⟩ := map_kind_eq_append_cons kinds
    obtain ⟨i, found, level, limit, applied⟩ := Joint.infix joint
    have next : levelOf s.tighter = levelOf s + 1 := by cases joint <;> rfl
    have other : symbol? .lParen (⟨k, offset⟩ :: (rs ++ rest)) = none := by cases joint <;> rfl
    rw [List.append_assoc, List.cons_append]
    refine Derives.reads hl kl le (stops_operator found (by omega)) other ?_
    refine (continues_cons_iff found (level ▸ le)).2 ⟨_, rest, ?_, continued⟩
    refine applied.2 ⟨_, ?_, rfl⟩
    exact Derives.reads hr kr (Nat.le_refl _) (stops.mono (limitOf_le_tighter s)) unapplied
      (continues_here (stops.mono (by omega)))
  | .sign sign h =>
    obtain ⟨offset, us, rfl, ku⟩ := map_kind_eq_cons kinds
    refine reads_of_operand (OperandFrom.sign sign ?_).reads continued
    exact Derives.reads h ku (Nat.le_refl _) stops unapplied (continues_here stops)
  | .extension (p := p) h name =>
    obtain ⟨us, dot, behind, rfl, ku, kb⟩ := map_kind_eq_append_cons kinds
    obtain ⟨offset, rfl⟩ := map_kind_eq_singleton kb
    rw [List.append_assoc, List.cons_append, List.cons_append, List.nil_append]
    refine Derives.reads h ku le (stops_operator rfl (by decide)) rfl ?_
    exact (continues_cons_iff rfl le).2 ⟨_, rest, reads_member_of_name name, continued⟩
  | .member h plain name =>
    obtain ⟨us, dot, behind, rfl, ku, kb⟩ := map_kind_eq_append_cons kinds
    obtain ⟨offset, rfl⟩ := map_kind_eq_singleton kb
    rw [List.append_assoc, List.cons_append, List.cons_append, List.nil_append]
    refine Derives.reads h ku le (stops_operator rfl (by decide)) rfl ?_
    rw [← member_of_not_path plain] at continued
    exact (continues_cons_iff rfl le).2 ⟨_, rest, reads_member_of_name name, continued⟩
  | .subscript h hi =>
    obtain ⟨us, bracket, behind, rfl, ku, kb⟩ := map_kind_eq_append_cons kinds
    obtain ⟨is, closed, rfl, ki⟩ := map_kind_eq_append_singleton kb
    rw [List.append_assoc, List.cons_append, List.append_assoc, List.cons_append, List.nil_append]
    refine Derives.reads h ku le (stops_operator rfl (by decide)) rfl ?_
    refine (continues_cons_iff rfl le).2 ⟨_, rest, ?_, continued⟩
    refine reads_subscript_iff.2 ⟨_, closed, ?_, rfl⟩
    exact Derives.reads hi ki (Nat.zero_le _) (stops_cons rfl) rfl (continues_here (stops_cons rfl))
  | .literal literal =>
    obtain ⟨offset, rfl⟩ := map_kind_eq_singleton kinds
    exact reads_of_operand (OperandFrom.literal literal).reads continued
  | .dollarName name =>
    obtain ⟨offset, rfl⟩ := map_kind_eq_singleton kinds
    exact reads_of_operand (OperandFrom.dollarName rfl).reads continued
  | .bareName free =>
    obtain ⟨offset, rfl⟩ := map_kind_eq_singleton kinds
    exact reads_of_operand (OperandFrom.bareName rfl free unapplied).reads continued
  | .call free list =>
    obtain ⟨offset, us, rfl, ku⟩ := map_kind_eq_cons kinds
    obtain ⟨opened, behind, rfl, kb⟩ := map_kind_eq_cons ku
    obtain ⟨is, closed, rfl, ki⟩ := map_kind_eq_append_singleton kb
    rw [List.cons_append, List.cons_append, List.append_assoc, List.cons_append, List.nil_append]
    refine reads_of_operand (OperandFrom.call rfl free rfl ?_).reads continued
    exact DerivesList.reads list ki (.inl rfl)
  | .group h =>
    obtain ⟨opened, behind, rfl, kb⟩ := map_kind_eq_cons kinds
    obtain ⟨is, closed, rfl, ki⟩ := map_kind_eq_append_singleton kb
    rw [List.cons_append, List.append_assoc, List.cons_append, List.nil_append]
    have inner : Reads (expression stop 0 (is ++ ⟨.symbol .rParen, closed⟩ :: rest)) _
        (⟨.symbol .rParen, closed⟩ :: rest) :=
      Derives.reads h ki (Nat.zero_le _) (stops_cons rfl) rfl (continues_here (stops_cons rfl))
    exact reads_of_operand (OperandFrom.group rfl inner).reads continued
  | .array list =>
    obtain ⟨opened, behind, rfl, kb⟩ := map_kind_eq_cons kinds
    obtain ⟨is, closed, rfl, ki⟩ := map_kind_eq_append_singleton kb
    rw [List.cons_append, List.append_assoc, List.cons_append, List.nil_append]
    refine reads_of_operand (OperandFrom.array rfl ?_).reads continued
    exact DerivesList.reads list ki (.inr rfl)

theorem DerivesList.reads {ks : List TokenKind} {es : List Expr} {stop offset : Nat} {close : Symbol}
    {ts rest : List Token} (h : DerivesList ks es) (kinds : ts.map Token.kind = ks)
    (closing : close = .rParen ∨ close = .rBracket) :
    Reads (items stop close (ts ++ ⟨.symbol close, offset⟩ :: rest)) es rest := by
  have outside : Infix.ofToken? (.symbol close) = none ∧ beginsOperand (.symbol close) = false := by
    rcases closing with rfl | rfl <;> exact ⟨rfl, rfl⟩
  match h with
  | .nil =>
    obtain rfl := List.map_eq_nil_iff.1 kinds
    exact reads_items_iff.2 (.inl ⟨rfl, offset, rfl⟩)
  | .last h =>
    have ended : symbol? .comma (⟨.symbol close, offset⟩ :: rest) = none ∧
        symbol? .lParen (⟨.symbol close, offset⟩ :: rest) = none := by
      rcases closing with rfl | rfl <;> exact ⟨rfl, rfl⟩
    refine reads_items_iff.2 (.inr ⟨?_, _, [], rfl, .inr ⟨_, ?_, ended.1, rfl, offset, rfl⟩⟩)
    · exact symbol?_eq_none_of_begun (kinds ▸ h.begun) outside.2
    · exact Derives.reads h kinds (Nat.zero_le _) (stops_cons outside.1) ended.2
        (continues_here (stops_cons outside.1))
  | .comma h list =>
    obtain ⟨us, comma, behind, rfl, ku, kb⟩ := map_kind_eq_append_cons kinds
    rw [List.append_assoc, List.cons_append]
    have tail : Reads (items stop close (behind ++ ⟨.symbol close, offset⟩ :: rest)) _ rest :=
      DerivesList.reads list kb closing
    refine reads_items_iff.2 (.inr ⟨?_, _, _, rfl, .inl ⟨comma, _, ?_, tail⟩⟩)
    · exact symbol?_eq_none_of_begun (ku ▸ h.begun) outside.2
    · exact Derives.reads h ku (Nat.zero_le _) (stops_cons rfl) rfl (continues_here (stops_cons rfl))

end

/-! ## What is read is derived -/

-- Induction on the tokens that are left. What is read so far is on a stratum `s`, and the loop goes on
-- only with an operator below the limit of `s`.

theorem stops_twelve (ts : List Token) : Stops 12 ts := by
  rintro t - op -
  cases op with
  | conditional | member | subscript => decide
  | logical op => cases op <;> decide
  | binary op => cases op <;> decide

theorem stratumOf_levelOf (s : Stratum) : stratumOf (levelOf s) = s := by
  cases s <;> rfl

theorem infix_cases {k : TokenKind} {i : Infix} (found : Infix.ofToken? k = some i) :
    (k = .symbol .question ∧ i = .conditional) ∨
    (k = .symbol .coalesce ∧ i = .logical .coalesce) ∨
    (∃ s op, Joint s k op) ∨
    (k = .symbol .dot ∧ i = .member) ∨ (k = .symbol .lBracket ∧ i = .subscript) := by
  cases k with
  | symbol s =>
    cases s <;> simp only [Infix.ofToken?, Infix.ofSymbol?, Option.some.injEq, reduceCtorEq] at found
    case question => exact .inl ⟨rfl, found.symm⟩
    case coalesce => exact .inr (.inl ⟨rfl, found.symm⟩)
    case dot => exact .inr (.inr (.inr (.inl ⟨rfl, found.symm⟩)))
    case lBracket => exact .inr (.inr (.inr (.inr ⟨rfl, found.symm⟩)))
    all_goals exact .inr (.inr (.inl ⟨_, _, by constructor⟩))
  | ident word =>
    simp only [Infix.ofToken?] at found
    split at found
    · next spelled =>
      obtain rfl := Keyword.ofText?_eq_some_iff.1 spelled
      exact .inr (.inr (.inl ⟨_, _, .orWord⟩))
    · next spelled =>
      obtain rfl := Keyword.ofText?_eq_some_iff.1 spelled
      exact .inr (.inr (.inl ⟨_, _, .andWord⟩))
    · cases found
  | int | float | str | «variable» | segment => cases found

theorem member_derives {ks : List TokenKind} {k : TokenKind} {word : String}
    (h : Derives .access ks e) (name : MemberName k word) :
    Derives .access (ks ++ [.symbol .dot, k]) (member e (.ofText word)) := by
  cases e with
  | path p => exact .extension h name
  | _ => exact .member h nofun name

mutual

theorem expression_derives {stop least : Nat} {ts rest : List Token} {e : Expr}
    (h : Reads (expression stop least ts) e rest) (le : least ≤ 10) :
    ∃ front, ts = front ++ rest ∧ Derives (stratumOf least) (front.map Token.kind) e ∧
      Stops least rest := by
  obtain ⟨first, middle, one, two⟩ := reads_expression_iff.1 h
  have fewer := one.shorter
  obtain ⟨front, s, rfl, tight, derived, stops⟩ := operand_derives one
  obtain ⟨more, rfl, whole, ended⟩ := continuation_derives two derived (by omega) stops le
  exact ⟨front ++ more, by simp, by simpa using whole, ended⟩
termination_by (ts.length, 1)

theorem continuation_derives {stop least : Nat} {ts rest : List Token} {e left : Expr} {s : Stratum}
    {ks : List TokenKind} (h : Continues (continuation stop least left ts) e rest)
    (derived : Derives s ks left) (tight : least ≤ levelOf s) (stops : Stops (limitOf s) ts)
    (le : least ≤ 10) :
    ∃ front, ts = front ++ rest ∧ Derives (stratumOf least) (ks ++ front.map Token.kind) e ∧
      Stops least rest := by
  rcases stops_or least ts with here | ⟨t, us, i, rfl, found, high⟩
  · obtain ⟨rfl, rfl⟩ := (continues_of_stops here).1 h
    have positive : 1 ≤ levelOf s := by cases s <;> decide
    have level := levelOf_stratumOf_le least
    exact ⟨[], rfl, by simpa using derived.loosen (by omega), here⟩
  · obtain ⟨whole, middle, one, two⟩ := (continues_cons_iff found high).1 h
    have fewer := one.shorter
    obtain ⟨front, s', rfl, joined, level, after⟩ :=
      application_derives one found derived (stops t rfl i found)
    obtain ⟨more, rfl, ended, last⟩ := continuation_derives two joined (by omega) after le
    exact ⟨t :: (front ++ more), by simp, by simpa using ended, last⟩
termination_by (ts.length, 0)

theorem application_derives {stop : Nat} {ts rest : List Token} {e left : Expr} {s : Stratum}
    {ks : List TokenKind} {k : TokenKind} {i : Infix}
    (h : Reads (application stop i left ts) e rest) (found : Infix.ofToken? k = some i)
    (derived : Derives s ks left) (loose : i.level < limitOf s) :
    ∃ front s', ts = front ++ rest ∧ Derives s' (ks ++ k :: front.map Token.kind) e ∧
      levelOf s' = i.level ∧ Stops (limitOf s') rest := by
  rcases infix_cases found with ⟨rfl, rfl⟩ | ⟨rfl, rfl⟩ | ⟨s', op, joint⟩ | ⟨rfl, rfl⟩ | ⟨rfl, rfl⟩
  · have tight : levelOf .fallback ≤ levelOf s := by
      revert loose
      cases s <;> decide
    obtain ⟨y, n, offset, middle, one, two, rfl⟩ := reads_conditional_iff.1 h
    have fewer := one.shorter
    obtain ⟨ys, rfl, yes, -⟩ := expression_derives one (by decide)
    obtain ⟨ns, rfl, no, ended⟩ := expression_derives two (by decide)
    refine ⟨ys ++ ⟨.symbol .colon, offset⟩ :: ns, .choice, by simp, ?_, rfl, ended⟩
    simpa using Derives.choice (derived.loosen tight) yes no
  · have tight : levelOf .disjunction ≤ levelOf s := by
      revert loose
      cases s <;> decide
    obtain ⟨r, one, rfl⟩ := reads_logical_iff.1 h
    obtain ⟨rs, rfl, right, ended⟩ := expression_derives one (by decide)
    exact ⟨rs, .fallback, rfl, .fallback (derived.loosen tight) right, rfl, ended⟩
  · obtain ⟨j, same, level, limit, applied⟩ := Joint.infix joint
    rw [found] at same
    cases same
    have low := limitOf_le s
    have next : levelOf s'.tighter = levelOf s' + 1 := by cases joint <;> rfl
    have short : levelOf s'.tighter ≤ 10 := by cases joint <;> decide
    obtain ⟨r, one, rfl⟩ := applied.1 h
    obtain ⟨rs, rfl, right, ended⟩ := expression_derives one short
    rw [stratumOf_levelOf] at right
    refine ⟨rs, s', rfl, .joint joint (derived.loosen (by omega)) right, level.symm, ?_⟩
    exact ended.mono (by omega)
  · have tight : levelOf .access ≤ levelOf s := by
      revert loose
      cases s <;> decide
    obtain ⟨segment, one, rfl⟩ := reads_member_iff.1 h
    obtain ⟨k, word, offset, name, rfl, rfl⟩ := reads_memberName_iff.1 one
    refine ⟨[⟨k, offset⟩], .access, rfl, member_derives (derived.loosen tight) name, rfl, ?_⟩
    exact stops_twelve rest
  · have tight : levelOf .access ≤ levelOf s := by
      revert loose
      cases s <;> decide
    obtain ⟨i, offset, one, rfl⟩ := reads_subscript_iff.1 h
    obtain ⟨is, rfl, inner, -⟩ := expression_derives one (by decide)
    refine ⟨is ++ [⟨.symbol .rBracket, offset⟩], .access, by simp, ?_, rfl, stops_twelve rest⟩
    simpa using Derives.subscript (derived.loosen tight) inner
termination_by (ts.length, 2)

theorem operand_derives {stop : Nat} {ts rest : List Token} {e : Expr}
    (h : Reads (operand stop ts) e rest) :
    ∃ front s, ts = front ++ rest ∧ 10 ≤ levelOf s ∧ Derives s (front.map Token.kind) e ∧
      Stops (limitOf s) rest := by
  match ts with
  | [] =>
    rw [operand] at h
    exact absurd h not_reads_error
  | ⟨kind, offset⟩ :: ts =>
    have atomic : Stops (limitOf .atom) rest := (stops_twelve rest).mono (by decide)
    cases operandFrom_of_reads h with
    | literal literal => exact ⟨[_], .atom, rfl, by decide, .literal literal, atomic⟩
    | sign sign one =>
      obtain ⟨front, rfl, derived, ended⟩ := expression_derives one (by decide)
      exact ⟨_ :: front, .signed, rfl, by decide, .sign sign derived, ended⟩
    | dollarName named =>
      cases named
      exact ⟨[_], .atom, rfl, by decide, .dollarName _, atomic⟩
    | bareName named free absent =>
      cases named
      exact ⟨[_], .atom, rfl, by decide, .bareName free, atomic⟩
    | @call word opened _ es _ named free same one =>
      cases named
      subst same
      obtain ⟨front, closed, rfl, list⟩ := items_derives one
      refine ⟨⟨.ident word, offset⟩ :: ⟨.symbol .lParen, opened⟩ :: (front ++
        [⟨.symbol .rParen, closed⟩]), .atom, by simp, by decide, ?_, atomic⟩
      simpa using Derives.call free list
    | @group _ closed _ opened one =>
      cases opened
      obtain ⟨front, rfl, derived, -⟩ := expression_derives one (by decide)
      refine ⟨⟨.symbol .lParen, offset⟩ :: (front ++ [⟨.symbol .rParen, closed⟩]), .atom, by simp,
        by decide, ?_, atomic⟩
      simpa using Derives.group derived
    | array opened one =>
      cases opened
      obtain ⟨front, closed, rfl, list⟩ := items_derives one
      refine ⟨⟨.symbol .lBracket, offset⟩ :: (front ++ [⟨.symbol .rBracket, closed⟩]), .atom,
        by simp, by decide, ?_, atomic⟩
      simpa using Derives.array list
termination_by (ts.length, 0)

theorem items_derives {stop : Nat} {close : Symbol} {ts rest : List Token} {es : List Expr}
    (h : Reads (items stop close ts) es rest) :
    ∃ front offset, ts = front ++ ⟨.symbol close, offset⟩ :: rest ∧
      DerivesList (front.map Token.kind) es := by
  rcases reads_items_iff.1 h with ⟨rfl, offset, rfl⟩ | ⟨-, first, tail, rfl, more | last⟩
  · exact ⟨[], offset, rfl, .nil⟩
  · obtain ⟨offset, after, one, two⟩ := more
    have fewer := one.shorter
    simp only [List.length_cons] at fewer
    obtain ⟨front, rfl, derived, -⟩ := expression_derives one (by decide)
    obtain ⟨behind, closed, rfl, list⟩ := items_derives two
    refine ⟨front ++ ⟨.symbol .comma, offset⟩ :: behind, closed, by simp, ?_⟩
    simpa using DerivesList.comma derived list
  · obtain ⟨_, one, -, rfl, offset, rfl⟩ := last
    obtain ⟨front, rfl, derived, -⟩ := expression_derives one (by decide)
    exact ⟨front, offset, rfl, .last derived⟩
termination_by (ts.length, 2)

end

/-! ## The whole list -/

theorem ending_eq_ok_iff {stop : Nat} {ts : List Token} {u : Unit} :
    ending stop ts = .ok u ↔ ts = [] := by
  cases ts with
  | nil => exact ⟨fun _ => rfl, fun _ => rfl⟩
  | cons t ts => exact ⟨nofun, nofun⟩

theorem wholeExpression_eq_ok_iff {stop : Nat} {ts : List Token} {e : Expr} :
    wholeExpression stop ts = .ok e ↔ Derives .choice (ts.map Token.kind) e := by
  unfold wholeExpression
  rw [bind_read_eq_ok]
  constructor
  · rintro ⟨whole, rest, one, two⟩
    obtain ⟨u, ended, same⟩ := bind_eq_ok.1 two
    cases same
    obtain rfl := ending_eq_ok_iff.1 ended
    obtain ⟨front, rfl, derived, -⟩ := expression_derives one (by decide)
    rw [List.append_nil]
    exact derived
  · intro derived
    have stops : ∀ {least}, Stops least [] := nofun
    have one : Reads (expression stop 0 (ts ++ [])) e [] :=
      derived.reads rfl (Nat.zero_le _) stops rfl (continues_here stops)
    rw [List.append_nil] at one
    exact ⟨e, [], one, rfl⟩

/-- Every list of tokens either spells exactly one expression, which is read, or spells none and is
refused. -/
theorem wholeExpression_decides_grammar (stop : Nat) (ts : List Token) :
    (∀ e, wholeExpression stop ts = .ok e ↔ Derives .choice (ts.map Token.kind) e) ∧
    ((∃ e, ∀ e', Derives .choice (ts.map Token.kind) e' ↔ e' = e) ∨
      (∀ e, ¬Derives .choice (ts.map Token.kind) e) ∧
        ∃ reason, wholeExpression stop ts = .error reason) := by
  refine ⟨fun e => wholeExpression_eq_ok_iff, ?_⟩
  cases result : wholeExpression stop ts with
  | ok e =>
    refine .inl ⟨e, fun e' => ?_⟩
    rw [← wholeExpression_eq_ok_iff, result]
    exact ⟨fun same => by cases same; rfl, fun same => by rw [same]⟩
  | error reason =>
    refine .inr ⟨fun e derived => ?_, reason, rfl⟩
    rw [← wholeExpression_eq_ok_iff, result] at derived
    cases derived

end Stencil.Grammar
