import Stencil.Expr.Parser
import Stencil.Proofs.Expr.Grammar
import Stencil.Proofs.Reading

namespace Stencil.Parser
open Grammar

variable {stop least : Nat} {ts rest : List Token} {t : Token} {e left : Expr}

theorem symbol?_eq_none_iff {s : Symbol} :
    symbol? s ts = none ↔ ∀ t ∈ ts.head?, t.kind ≠ .symbol s := by
  unfold symbol?
  split
  · next found offset us =>
    constructor
    · intro h t first
      cases first
      rintro same
      cases same
      simp at h
    · intro h
      rw [if_neg]
      rintro rfl
      exact h _ rfl rfl
  · next other =>
    refine ⟨fun _ t first same => ?_, fun _ => rfl⟩
    obtain ⟨us, rfl⟩ : ∃ us, ts = t :: us := by
      cases ts <;> simp_all
    obtain ⟨kind, offset⟩ := t
    cases same
    exact other _ _ _ rfl

theorem symbol?_eq_some {s : Symbol} {u : Unit} {shorter : rest.length < ts.length}
    (h : symbol? s ts = some ⟨u, rest, shorter⟩) : ∃ offset, ts = ⟨.symbol s, offset⟩ :: rest := by
  unfold symbol? at h
  split at h
  · next found offset us =>
    split at h
    · next same =>
      cases h
      exact ⟨offset, same ▸ rfl⟩
    · simp at h
  · simp at h

@[simp] theorem symbol?_cons {s : Symbol} {offset : Nat} :
    symbol? s (⟨.symbol s, offset⟩ :: rest) = some ⟨(), rest, Nat.lt_succ_self _⟩ := by
  simp [symbol?]

theorem reads_symbol_iff {s : Symbol} {u : Unit} :
    Reads (symbol stop s ts) u rest ↔ ∃ offset, ts = ⟨.symbol s, offset⟩ :: rest := by
  unfold symbol
  constructor
  · intro h
    split at h
    · next found =>
      obtain ⟨offset, same⟩ := symbol?_eq_some found
      obtain ⟨-, rfl⟩ := reads_ok.1 h
      exact ⟨offset, same⟩
    · exact absurd h not_reads_error
  · rintro ⟨offset, rfl⟩
    simp

theorem reads_memberName_iff {segment : Segment} :
    Reads (memberName stop ts) segment rest ↔
      ∃ k word offset, MemberName k word ∧ segment = .ofText word ∧ ts = ⟨k, offset⟩ :: rest := by
  unfold memberName
  constructor
  · intro h
    split at h
    · obtain ⟨rfl, rfl⟩ := reads_ok.1 h
      exact ⟨_, _, _, .segment _, rfl, rfl⟩
    · obtain ⟨rfl, rfl⟩ := reads_ok.1 h
      exact ⟨_, _, _, .ident _, rfl, rfl⟩
    · exact absurd h not_reads_error
  · rintro ⟨k, word, offset, name, rfl, rfl⟩
    cases name <;> simp

theorem reads_expression_iff :
    Reads (expression stop least ts) e rest ↔
      ∃ first middle, Reads (operand stop ts) first middle ∧
        Continues (continuation stop least first middle) e rest := by
  rw [expression]
  simp only [reads_bind, reads_bind_continued, reads_pure, exists_prop]
  simp

/-! ## What continues an expression -/

def Stops (least : Nat) (ts : List Token) : Prop :=
  ∀ t ∈ ts.head?, ∀ op, Infix.ofToken? t.kind = some op → op.level < least

theorem Stops.mono {more : Nat} (h : Stops least ts) (le : least ≤ more) : Stops more ts :=
  fun t first op found => Nat.lt_of_lt_of_le (h t first op found) le

theorem stops_cons (h : Infix.ofToken? t.kind = none) : Stops least (t :: ts) := by
  intro u first op found
  cases first
  rw [h] at found
  cases found

theorem stops_or (least : Nat) (ts : List Token) :
    Stops least ts ∨ ∃ t us op, ts = t :: us ∧ Infix.ofToken? t.kind = some op ∧ least ≤ op.level := by
  cases ts with
  | nil => exact .inl nofun
  | cons t us =>
    cases found : Infix.ofToken? t.kind with
    | none => exact .inl (stops_cons found)
    | some op =>
      by_cases tight : least ≤ op.level
      · exact .inr ⟨t, us, op, rfl, found, tight⟩
      · refine .inl fun u first other same => ?_
        cases first
        rw [found] at same
        cases same
        omega

theorem continues_of_stops (h : Stops least ts) :
    Continues (continuation stop least left ts) e rest ↔ e = left ∧ rest = ts := by
  cases ts with
  | nil =>
    rw [continuation]
    exact continues_ok
  | cons t us =>
    rw [continuation]
    cases found : Infix.ofToken? t.kind with
    | none => exact continues_ok
    | some op =>
      simp only [if_pos (h t rfl op found)]
      exact continues_ok

theorem continues_cons_iff {op : Infix} (found : Infix.ofToken? t.kind = some op)
    (tight : least ≤ op.level) :
    Continues (continuation stop least left (t :: ts)) e rest ↔
      ∃ whole middle, Reads (application stop op left ts) whole middle ∧
        Continues (continuation stop least whole middle) e rest := by
  rw [continuation]
  simp only [found, if_neg (Nat.not_lt.2 tight), continues_bind, continues_bind_continued,
    continues_pure, exists_prop]
  simp

theorem reads_conditional_iff :
    Reads (application stop .conditional left ts) e rest ↔
      ∃ y n offset middle, Reads (expression stop 0 ts) y (⟨.symbol .colon, offset⟩ :: middle) ∧
        Reads (expression stop Infix.conditionalLevel middle) n rest ∧
        e = .conditional left y n := by
  rw [application]
  simp only [reads_bind, reads_pure, reads_symbol_iff, exists_prop]
  constructor
  · rintro ⟨y, _, one, _, _, ⟨offset, rfl⟩, n, _, two, rfl, rfl⟩
    exact ⟨y, n, offset, _, one, two, rfl⟩
  · rintro ⟨y, n, offset, middle, one, two, rfl⟩
    exact ⟨y, _, one, (), _, ⟨offset, rfl⟩, n, _, two, rfl, rfl⟩

theorem reads_logical_iff {op : LogicalOp} :
    Reads (application stop (.logical op) left ts) e rest ↔
      ∃ r, Reads (expression stop op.rightLevel ts) r rest ∧ e = .logical op left r := by
  rw [application]
  simp only [reads_bind, reads_pure, exists_prop]
  simp

theorem reads_binary_iff {op : BinaryOp} :
    Reads (application stop (.binary op) left ts) e rest ↔
      ∃ r, Reads (expression stop op.rightLevel ts) r rest ∧ e = .binary op left r := by
  rw [application]
  simp only [reads_bind, reads_pure, exists_prop]
  simp

theorem reads_member_iff :
    Reads (application stop .member left ts) e rest ↔
      ∃ segment, Reads (memberName stop ts) segment rest ∧ e = member left segment := by
  rw [application]
  simp only [reads_bind, reads_pure, exists_prop]
  simp

theorem reads_subscript_iff :
    Reads (application stop .subscript left ts) e rest ↔
      ∃ i offset, Reads (expression stop 0 ts) i (⟨.symbol .rBracket, offset⟩ :: rest) ∧
        e = .index left i := by
  rw [application]
  simp only [reads_bind, reads_pure, reads_symbol_iff, exists_prop]
  constructor
  · rintro ⟨i, _, one, _, _, ⟨offset, rfl⟩, rfl, rfl⟩
    exact ⟨i, offset, one, rfl⟩
  · rintro ⟨i, offset, one, rfl⟩
    exact ⟨i, _, one, (), _, ⟨offset, rfl⟩, rfl, rfl⟩

/-! ## Operands and lists -/

theorem reads_items_iff {close : Symbol} {es : List Expr} :
    Reads (items stop close ts) es rest ↔
      (es = [] ∧ ∃ offset, ts = ⟨.symbol close, offset⟩ :: rest) ∨
      symbol? close ts = none ∧ ∃ first tail, es = first :: tail ∧
        ((∃ offset after, Reads (expression stop 0 ts) first (⟨.symbol .comma, offset⟩ :: after) ∧
          Reads (items stop close after) tail rest) ∨
        ∃ middle, Reads (expression stop 0 ts) first middle ∧ symbol? .comma middle = none ∧
          tail = [] ∧ ∃ offset, middle = ⟨.symbol close, offset⟩ :: rest) := by
  rw [items]
  split
  · next found =>
    obtain ⟨offset, rfl⟩ := symbol?_eq_some found
    simp [eq_comm]
  · next absent =>
    have other : ∀ offset, ts ≠ ⟨.symbol close, offset⟩ :: rest := by
      rintro offset rfl
      simp at absent
    simp only [reads_bind, absent, other, exists_false, and_false, false_or, true_and]
    constructor
    · rintro ⟨first, middle, one, h⟩
      split at h
      · next found =>
        obtain ⟨offset, rfl⟩ := symbol?_eq_some found
        simp only [reads_bind, reads_pure, exists_prop] at h
        obtain ⟨tail, _, two, rfl, rfl⟩ := h
        exact ⟨first, tail, rfl, .inl ⟨offset, _, one, two⟩⟩
      · next ended =>
        simp only [reads_bind, reads_pure, exists_prop, reads_symbol_iff] at h
        obtain ⟨_, _, two, rfl, rfl⟩ := h
        exact ⟨first, [], rfl, .inr ⟨middle, one, ended, rfl, two⟩⟩
    · rintro ⟨first, tail, rfl, ⟨offset, after, one, two⟩ | ⟨middle, one, ended, rfl, two⟩⟩
      · refine ⟨first, _, one, ?_⟩
        simp only [symbol?_cons, reads_bind, reads_pure, exists_prop]
        exact ⟨tail, _, two, rfl, rfl⟩
      · refine ⟨first, middle, one, ?_⟩
        split
        · next found =>
          rw [ended] at found
          cases found
        · simp only [reads_bind, reads_pure, exists_prop, reads_symbol_iff]
          exact ⟨(), _, two, trivial, rfl⟩

/-- What an operand is, by its first token `t` and the tokens after it. -/
inductive OperandFrom (stop : Nat) (t : Token) (ts : List Token) : Expr → List Token → Prop
  | literal {v} : Literal t.kind v → OperandFrom stop t ts (.literal v) ts
  | sign {op e rest} : Sign t.kind op → Reads (expression stop UnaryOp.level ts) e rest →
      OperandFrom stop t ts (.unary op e) rest
  | dollarName {name} : t.kind = .variable name → OperandFrom stop t ts (.path ⟨name, []⟩) ts
  | bareName {word} : t.kind = .ident word → isKeyword word = false → symbol? .lParen ts = none →
      OperandFrom stop t ts (.path ⟨word, []⟩) ts
  | call {word offset inner es rest} : t.kind = .ident word → isKeyword word = false →
      ts = ⟨.symbol .lParen, offset⟩ :: inner → Reads (items stop .rParen inner) es rest →
      OperandFrom stop t ts (.call word es) rest
  | group {e offset rest} : t.kind = .symbol .lParen →
      Reads (expression stop 0 ts) e (⟨.symbol .rParen, offset⟩ :: rest) →
      OperandFrom stop t ts e rest
  | array {es rest} : t.kind = .symbol .lBracket → Reads (items stop .rBracket ts) es rest →
      OperandFrom stop t ts (.array es) rest

theorem operandFrom_of_reads (h : Reads (operand stop (t :: ts)) e rest) :
    OperandFrom stop t ts e rest := by
  rw [operand] at h
  split at h
  · next n int =>
    obtain ⟨rfl, rfl⟩ := reads_ok.1 h
    exact .literal (int ▸ .int n)
  · next x float =>
    obtain ⟨rfl, rfl⟩ := reads_ok.1 h
    exact .literal (float ▸ .float x)
  · next s str =>
    obtain ⟨rfl, rfl⟩ := reads_ok.1 h
    exact .literal (str ▸ .str s)
  · next name named =>
    obtain ⟨rfl, rfl⟩ := reads_ok.1 h
    exact .dollarName named
  · next word ident =>
    split at h
    · next spelled =>
      obtain rfl := Keyword.ofText?_eq_some_iff.1 spelled
      obtain ⟨rfl, rfl⟩ := reads_ok.1 h
      exact .literal (ident ▸ .true)
    · next spelled =>
      obtain rfl := Keyword.ofText?_eq_some_iff.1 spelled
      obtain ⟨rfl, rfl⟩ := reads_ok.1 h
      exact .literal (ident ▸ .false)
    · next spelled =>
      obtain rfl := Keyword.ofText?_eq_some_iff.1 spelled
      obtain ⟨rfl, rfl⟩ := reads_ok.1 h
      exact .literal (ident ▸ .null)
    · next spelled =>
      obtain rfl := Keyword.ofText?_eq_some_iff.1 spelled
      simp only [reads_bind, reads_pure, exists_prop] at h
      obtain ⟨operand, _, one, rfl, rfl⟩ := h
      exact .sign (ident ▸ .notWord) one
    · exact absurd h not_reads_error
    · next plain =>
      have free : isKeyword word = false := by simp [isKeyword, plain]
      split at h
      · next found =>
        obtain ⟨offset, rfl⟩ := symbol?_eq_some found
        simp only [reads_bind, reads_pure, exists_prop] at h
        obtain ⟨es, _, one, rfl, rfl⟩ := h
        exact .call ident free rfl one
      · next absent =>
        obtain ⟨rfl, rfl⟩ := reads_ok.1 h
        exact .bareName ident free absent
  · next bang =>
    simp only [reads_bind, reads_pure, exists_prop] at h
    obtain ⟨operand, _, one, rfl, rfl⟩ := h
    exact .sign (bang ▸ .bang) one
  · next minus =>
    simp only [reads_bind, reads_pure, exists_prop] at h
    obtain ⟨operand, _, one, rfl, rfl⟩ := h
    exact .sign (minus ▸ .minus) one
  · next paren =>
    simp only [reads_bind, reads_pure, exists_prop, reads_symbol_iff] at h
    obtain ⟨e, _, one, _, _, ⟨offset, rfl⟩, rfl, rfl⟩ := h
    exact .group paren one
  · next bracket =>
    simp only [reads_bind, reads_pure, exists_prop] at h
    obtain ⟨es, _, one, rfl, rfl⟩ := h
    exact .array bracket one
  · exact absurd h not_reads_error

theorem OperandFrom.reads (h : OperandFrom stop t ts e rest) :
    Reads (operand stop (t :: ts)) e rest := by
  obtain ⟨kind, offset⟩ := t
  rw [operand]
  cases h with
  | literal spelled => cases spelled <;> simp [Keyword.ofText?]
  | sign spelled one =>
    have notWord : Keyword.ofText? "not" = some .not := rfl
    cases spelled with
    | notWord =>
      simp only [notWord, reads_bind, reads_pure, exists_prop]
      exact ⟨_, _, one, rfl, rfl⟩
    | bang | minus =>
      simp only [reads_bind, reads_pure, exists_prop]
      exact ⟨_, _, one, rfl, rfl⟩
  | dollarName same =>
    cases same
    simp
  | @bareName word same free absent =>
    cases same
    have plain : Keyword.ofText? word = none := by simpa [isKeyword] using free
    simp [plain, absent]
  | @call word _ _ _ _ same free opened one =>
    cases same
    subst opened
    have plain : Keyword.ofText? word = none := by simpa [isKeyword] using free
    simp only [plain, symbol?_cons, reads_bind, reads_pure, exists_prop]
    exact ⟨_, _, one, rfl, rfl⟩
  | group same one =>
    cases same
    simp only [reads_bind, reads_pure, exists_prop, reads_symbol_iff]
    exact ⟨_, _, one, (), _, ⟨_, rfl⟩, rfl, rfl⟩
  | array same one =>
    cases same
    simp only [reads_bind, reads_pure, exists_prop]
    exact ⟨_, _, one, rfl, rfl⟩

end Stencil.Parser
