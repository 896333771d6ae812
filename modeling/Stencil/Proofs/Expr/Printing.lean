import Stencil.Proofs.Expr.Spelling

namespace Stencil
open Lexer Grammar

/-! ## What is printed -/

def UnaryOp.symbol : UnaryOp → Symbol
  | .not => .bang
  | .neg => .minus

def BinaryOp.symbol : BinaryOp → Symbol
  | .add => .plus
  | .sub => .minus
  | .mul => .star
  | .div => .slash
  | .mod => .percent
  | .concat => .tilde
  | .eq => .eqEq
  | .notEq => .notEq
  | .identical => .identical
  | .notIdentical => .notIdentical
  | .lt => .lt
  | .le => .le
  | .gt => .gt
  | .ge => .ge

def LogicalOp.symbol : LogicalOp → Symbol
  | .and => .andAnd
  | .or => .orOr
  | .coalesce => .coalesce

def AssignOp.symbol : AssignOp → Symbol
  | .set => .assign
  | .add => .plusAssign
  | .sub => .minusAssign
  | .concat => .tildeAssign

def LogicalOp.leftLevel : LogicalOp → Nat
  | .coalesce => LogicalOp.coalesce.level + 1
  | op => op.level

namespace Expr

def level : Expr → Nat
  | conditional .. => Infix.conditionalLevel
  | logical op .. => op.level
  | binary op .. => op.level
  | unary .. => UnaryOp.level
  | _ => Infix.accessLevel

/-- The words of an expression where the level must be `least`. -/
def grouped (least : Nat) (e : Expr) (words : List String) : List String :=
  if e.level < least then "(" :: (words ++ [")"]) else words

mutual

def words : Expr → List String
  | literal v => [v.literal]
  | path p => ["$" ++ p.text]
  | index target position =>
    grouped Infix.accessLevel target target.words ++ "[" :: (position.words ++ ["]"])
  | member target segment =>
    grouped Infix.accessLevel target target.words ++ ["." ++ segment.text]
  | call name args => name :: "(" :: ([","].intercalate (wordsAll args) ++ [")"])
  | unary op operand => op.symbol.spelling :: grouped UnaryOp.level operand operand.words
  | binary op left right =>
    grouped op.level left left.words ++
      op.symbol.spelling :: grouped op.rightLevel right right.words
  | logical op left right =>
    grouped op.leftLevel left left.words ++
      op.symbol.spelling :: grouped op.rightLevel right right.words
  | conditional condition yes no =>
    grouped (Infix.conditionalLevel + 1) condition condition.words ++
      "?" :: (yes.words ++ ":" :: grouped Infix.conditionalLevel no no.words)
  | array items => "[" :: ([","].intercalate (wordsAll items) ++ ["]"])

def wordsAll : List Expr → List (List String)
  | [] => []
  | e :: es => e.words :: wordsAll es

end

theorem wordsAll_eq_map (es : List Expr) : wordsAll es = es.map words := by
  induction es with
  | nil => rw [wordsAll, List.map_nil]
  | cons e es ih => rw [wordsAll, List.map_cons, ih]

def print (e : Expr) : String :=
  " ".intercalate e.words

/-- The shapes that expressions without doubles have when they are read. -/
inductive Printable : Expr → Prop
  | null : Printable (literal .null)
  | bool (b : Bool) : Printable (literal (.bool b))
  | int {n : Int64} : 0 ≤ n.toInt → Printable (literal (.int n))
  | string (s : String) : Printable (literal (.string s))
  | path {p : VariablePath} : Text.isName p.root.toList = true → (∀ s ∈ p.segments, s.IsWord) →
      Printable (path p)
  | index {target position} : Printable target → Printable position →
      Printable (index target position)
  | member {target segment} : Printable target → (∀ p, target ≠ Expr.path p) → segment.IsWord →
      Printable (member target segment)
  | call {name args} : Text.isName name.toList = true → isKeyword name = false →
      (∀ e ∈ args, Printable e) → Printable (call name args)
  | unary (op) {operand} : Printable operand → Printable (unary op operand)
  | binary (op) {left right} : Printable left → Printable right → Printable (binary op left right)
  | logical (op) {left right} : Printable left → Printable right → Printable (logical op left right)
  | conditional {condition yes no} : Printable condition → Printable yes → Printable no →
      Printable (conditional condition yes no)
  | array {items} : (∀ e ∈ items, Printable e) → Printable (array items)

end Expr

namespace Stmt

def words : Stmt → List String
  | assign target op value => ("$" ++ target) :: op.symbol.spelling :: value.words
  | increment target => ["$" ++ target, "++"]
  | decrement target => ["$" ++ target, "--"]
  | expr e => e.words

def printAll (ss : List Stmt) : String :=
  " ".intercalate ([";"].intercalate (ss.map words))

inductive Printable : Stmt → Prop
  | assign {target value} (op) : Text.isName target.toList = true → value.Printable →
      Printable (assign target op value)
  | increment {target : String} : Text.isName target.toList = true → Printable (increment target)
  | decrement {target : String} : Text.isName target.toList = true → Printable (decrement target)
  | expr {e : Expr} : e.Printable → Printable (expr e)

end Stmt

namespace ForeachHeader

def words (header : ForeachHeader) : List String :=
  header.iterable.words ++ "as" ::
    match header.key with
    | some key => ["$" ++ key, "=>", "$" ++ header.value]
    | none => ["$" ++ header.value]

def print (header : ForeachHeader) : String :=
  " ".intercalate header.words

structure Printable (header : ForeachHeader) : Prop where
  iterable : header.iterable.Printable
  key : ∀ name ∈ header.key, Text.isName name.toList = true
  value : Text.isName header.value.toList = true

end ForeachHeader

namespace ForHeader

def words (header : ForHeader) : List String :=
  [","].intercalate (header.first.map Stmt.words) ++ ";" ::
    (header.condition.elim [] Expr.words ++ ";" :: [","].intercalate (header.step.map Stmt.words))

def print (header : ForHeader) : String :=
  " ".intercalate header.words

structure Printable (header : ForHeader) : Prop where
  first : ∀ s ∈ header.first, s.Printable
  condition : ∀ e ∈ header.condition, e.Printable
  step : ∀ s ∈ header.step, s.Printable

end ForHeader

/-! ## What the words spell -/

def Writes (s : Stratum) (words : List String) (e : Expr) : Prop :=
  ∃ ks, Spells words ks ∧ Derives s ks e

theorem spells_intercalate {α : Type} {symbol : Symbol} {words : α → List String}
    {part : List TokenKind → α → Prop} {whole : List TokenKind → List α → Prop}
    (nil : whole [] []) (last : ∀ {ks a}, part ks a → whole ks [a])
    (next : ∀ {ks ls a b as}, part ks a → whole ls (b :: as) →
      whole (ks ++ .symbol symbol :: ls) (a :: b :: as))
    {as : List α} (h : ∀ a ∈ as, ∃ ks, Spells (words a) ks ∧ part ks a) :
    ∃ ks, Spells ([symbol.spelling].intercalate (as.map words)) ks ∧ whole ks as := by
  induction as with
  | nil => exact ⟨[], .nil, nil⟩
  | cons a as ih =>
    obtain ⟨ks, first, spelled⟩ := h a (List.mem_cons_self ..)
    cases as with
    | nil => exact ⟨ks, by simpa using first, last spelled⟩
    | cons b as =>
      obtain ⟨ls, others, rest⟩ := ih fun c mem => h c (List.mem_cons_of_mem _ mem)
      refine ⟨_, ?_, next spelled rest⟩
      rw [List.map_cons, List.map_cons, List.intercalate_cons_cons, List.append_assoc]
      exact first.append (.symbol symbol others)

theorem levelOf_stratumOf (n : Nat) : levelOf (stratumOf n) = max 1 (min n 12) := by
  match n with
  | 0 | 1 | 2 | 3 | 4 | 5 | 6 | 7 | 8 | 9 | 10 | 11 => decide
  | n + 12 =>
    simp only [stratumOf, levelOf]
    omega

theorem Derives.group_of_loose {s : Stratum} {ks : List TokenKind} {e : Expr} (h : Derives s ks e)
    (loose : e.level < min (levelOf s) Infix.accessLevel) :
    ∃ ls, ks = .symbol .lParen :: (ls ++ [.symbol .rParen]) ∧ Derives .choice ls e := by
  match h with
  | @Derives.looser s _ _ inner =>
    have tighter := levelOf_le_tighter s
    exact Derives.group_of_loose inner (by omega)
  | .group inner => exact ⟨_, rfl, inner⟩
  | .joint joins _ _ =>
    cases joins <;> exact absurd (Nat.le_trans loose (Nat.min_le_left ..)) (Nat.lt_irrefl _)
  | .choice .. | .fallback .. | .sign .. =>
    exact absurd (Nat.le_trans loose (Nat.min_le_left ..)) (Nat.lt_irrefl _)
  | .extension .. | .member .. | .subscript .. | .literal _ | .dollarName _ | .bareName _ | .call ..
  | .array _ =>
    exact absurd (Nat.le_trans loose (Nat.min_le_right ..)) (Nat.lt_irrefl _)

theorem joint_binary (op : BinaryOp) :
    Joint (stratumOf op.level) (.symbol op.symbol) (.binary op) := by
  cases op <;> constructor

theorem tighter_binary (op : BinaryOp) :
    (stratumOf op.level).tighter = stratumOf op.rightLevel := by
  cases op <;> rfl

theorem sign_unary (op : UnaryOp) : Sign (.symbol op.symbol) op := by
  cases op <;> constructor

theorem assignSign (op : AssignOp) : AssignSign (.symbol op.symbol) op := by
  cases op <;> constructor

namespace Writes

variable {least : Nat} {words others : List String} {e l r c y n : Expr} {es : List Expr}

theorem loosen {s t : Stratum} (h : Writes s words e) (le : levelOf t ≤ levelOf s) :
    Writes t words e := by
  obtain ⟨ks, spelled, derived⟩ := h
  exact ⟨ks, spelled, derived.loosen le⟩

theorem group (h : Writes .choice words e) : Writes .atom ("(" :: (words ++ [")"])) e := by
  obtain ⟨ks, spelled, derived⟩ := h
  exact ⟨_, .symbol .lParen (spelled.append (.lastly .rParen)),
    .group derived⟩

theorem toChoice {s : Stratum} (h : Writes s words e) : Writes .choice words e :=
  h.loosen (by cases s <;> decide)

theorem grouped (h : Writes (stratumOf e.level) words e) (le : least ≤ 12) :
    Writes (stratumOf least) (e.grouped least words) e := by
  unfold Expr.grouped
  split
  · refine h.toChoice.group.loosen ?_
    rw [levelOf_stratumOf, levelOf]
    omega
  · refine h.loosen ?_
    rw [levelOf_stratumOf, levelOf_stratumOf]
    omega

theorem atomic {k : TokenKind} {word : String} (read : Lexes false word.toList [k])
    (derived : Derives .atom [k] e) : Writes .access [word] e :=
  ⟨[k], .one read, derived.loosen (by decide)⟩

theorem subscript (target : Writes .access words e) (position : Writes .choice others y) :
    Writes .access (words ++ "[" :: (others ++ ["]"])) (.index e y) := by
  obtain ⟨ks, left, container⟩ := target
  obtain ⟨ls, right, index⟩ := position
  refine ⟨_, left.append (.symbol .lBracket ?_), .subscript container index⟩
  exact right.append (.lastly .rBracket)

theorem member {segment : Segment} (target : Writes .access words e) (other : ∀ p, e ≠ .path p)
    (named : segment.IsWord) :
    Writes .access (words ++ ["." ++ segment.text]) (.member e segment) := by
  obtain ⟨ks, left, container⟩ := target
  obtain ⟨word, follows, rfl⟩ := named
  exact ⟨_, left.append (.one (lexes_member follows)), .member container other (.segment word)⟩

theorem unary (op : UnaryOp) (operand : Writes .signed words e) :
    Writes .signed (op.symbol.spelling :: words) (.unary op e) := by
  obtain ⟨ks, spelled, derived⟩ := operand
  exact ⟨_, .symbol op.symbol spelled, .sign (sign_unary op) derived⟩

theorem joint {s : Stratum} {symbol : Symbol} {op : LeftOp} (joins : Joint s (.symbol symbol) op)
    (left : Writes s words l) (right : Writes s.tighter others r) :
    Writes s (words ++ symbol.spelling :: others) (op.join l r) := by
  obtain ⟨ks, first, one⟩ := left
  obtain ⟨ls, second, two⟩ := right
  exact ⟨_, first.append (.symbol symbol second), .joint joins one two⟩

theorem binary (op : BinaryOp) (left : Writes (stratumOf op.level) words l)
    (right : Writes (stratumOf op.rightLevel) others r) :
    Writes (stratumOf op.level) (words ++ op.symbol.spelling :: others) (.binary op l r) := by
  rw [← tighter_binary] at right
  exact left.joint (joint_binary op) right

theorem logical (op : LogicalOp) (left : Writes (stratumOf op.leftLevel) words l)
    (right : Writes (stratumOf op.rightLevel) others r) :
    Writes (stratumOf op.level) (words ++ op.symbol.spelling :: others) (.logical op l r) := by
  cases op with
  | and => exact left.joint .andSign right
  | or => exact left.joint .orSign right
  | coalesce =>
    obtain ⟨ks, first, one⟩ := left
    obtain ⟨ls, second, two⟩ := right
    exact ⟨_, first.append (.symbol .coalesce second), .fallback one two⟩

theorem conditional {more : List String} (condition : Writes .fallback words c)
    (yes : Writes .choice others y) (no : Writes .choice more n) :
    Writes .choice (words ++ "?" :: (others ++ ":" :: more)) (.conditional c y n) := by
  obtain ⟨ks, first, one⟩ := condition
  obtain ⟨ls, second, two⟩ := yes
  obtain ⟨ms, third, three⟩ := no
  refine ⟨_, first.append (.symbol .question ?_), .choice one two three⟩
  exact second.append (.symbol .colon third)

theorem all (h : ∀ e ∈ es, Writes .choice e.words e) :
    ∃ ks, Spells ([","].intercalate (Expr.wordsAll es)) ks ∧ DerivesList ks es := by
  rw [Expr.wordsAll_eq_map]
  exact @spells_intercalate _ .comma _ _ _ .nil .last .comma es h

theorem call {name : String} (named : Text.isName name.toList = true)
    (free : isKeyword name = false) (args : ∀ e ∈ es, Writes .choice e.words e) :
    Writes .access (name :: "(" :: ([","].intercalate (Expr.wordsAll es) ++ [")"])) (.call name es) := by
  obtain ⟨ks, spelled, list⟩ := all args
  refine ⟨_, .word (lexes_name named) (.symbol .lParen ?_), .looser (.call free list)⟩
  exact spelled.append (.lastly .rParen)

theorem array (items : ∀ e ∈ es, Writes .choice e.words e) :
    Writes .access ("[" :: ([","].intercalate (Expr.wordsAll es) ++ ["]"])) (.array es) := by
  obtain ⟨ks, spelled, list⟩ := all items
  refine ⟨_, .symbol .lBracket ?_, .looser (.array list)⟩
  exact spelled.append (.lastly .rBracket)

end Writes

theorem Expr.Printable.writes {e : Expr} (h : e.Printable) :
    Writes (stratumOf e.level) e.words e := by
  -- A part is written on the stratum of its own level, and parentheses lift it where more is asked for.
  induction h with
  | null => exact .atomic (lexes_keyword .null) (.literal .null)
  | bool b =>
    cases b with
    | true => exact .atomic (lexes_keyword .true) (.literal .true)
    | false => exact .atomic (lexes_keyword .false) (.literal .false)
  | int whole => exact .atomic (lexes_int whole) (.literal (.int _))
  | string s => exact .atomic (lexes_quotedText s) (.literal (.str s))
  | path named follow =>
    obtain ⟨ks, read, derived⟩ := exists_lexes_path named follow
    exact ⟨ks, .one read, derived⟩
  | index _ _ target position => exact .subscript (target.grouped (by decide)) position.toChoice
  | member _ other named target => exact .member (target.grouped (by decide)) other named
  | call named free _ args => exact .call named free fun e mem => (args e mem).toChoice
  | unary op _ operand => exact .unary op (operand.grouped (by decide))
  | binary op _ _ left right =>
    exact .binary op (left.grouped (by cases op <;> decide)) (right.grouped (by cases op <;> decide))
  | logical op _ _ left right =>
    exact .logical op (left.grouped (by cases op <;> decide)) (right.grouped (by cases op <;> decide))
  | conditional _ _ _ condition yes no =>
    exact .conditional (condition.grouped (by decide)) yes.toChoice (no.grouped (by decide))
  | array _ items => exact .array fun e mem => (items e mem).toChoice

theorem Expr.Printable.writesAny {e : Expr} (h : e.Printable) : Writes .choice e.words e :=
  h.writes.toChoice

theorem Stmt.Printable.spells {s : Stmt} (h : s.Printable) :
    ∃ ks, Spells s.words ks ∧ DerivesStmt ks s := by
  cases h with
  | assign op named value =>
    obtain ⟨ks, spelled, derived⟩ := value.writesAny
    exact ⟨_, .word (lexes_variable named) (.symbol op.symbol spelled),
      .assign (.dollarName _) (assignSign op) derived⟩
  | increment named =>
    exact ⟨_, .word (lexes_variable named) (.lastly .increment), .increment (.dollarName _)⟩
  | decrement named =>
    exact ⟨_, .word (lexes_variable named) (.lastly .decrement), .decrement (.dollarName _)⟩
  | expr value =>
    obtain ⟨ks, spelled, derived⟩ := value.writesAny
    exact ⟨ks, spelled, .expr derived⟩

theorem spells_statements {ss : List Stmt} (h : ∀ s ∈ ss, s.Printable) :
    ∃ ks, Spells ([";"].intercalate (ss.map Stmt.words)) ks ∧ DerivesStmts ks ss :=
  @spells_intercalate _ .semicolon _ _ _ .nil .last
    (fun one others => .next one .semicolon others) ss fun s mem => (h s mem).spells

theorem spells_clause {ss : List Stmt} (h : ∀ s ∈ ss, s.Printable) :
    ∃ ks, Spells ([","].intercalate (ss.map Stmt.words)) ks ∧ DerivesClause ks ss :=
  @spells_intercalate _ .comma _ _ _ .nil .last
    (fun one others => .next one others nofun) ss fun s mem => (h s mem).spells

theorem spells_condition {condition : Option Expr} (h : ∀ e ∈ condition, e.Printable) :
    ∃ ks, Spells (condition.elim [] Expr.words) ks ∧ DerivesCondition ks condition := by
  cases condition with
  | none => exact ⟨[], .nil, .absent⟩
  | some e =>
    obtain ⟨ks, spelled, derived⟩ := (h e rfl).writesAny
    exact ⟨ks, spelled, .present derived⟩

theorem ForeachHeader.Printable.spells {header : ForeachHeader} (h : header.Printable) :
    ∃ ks, Spells header.words ks ∧ DerivesForeach ks header := by
  obtain ⟨ks, spelled, derived⟩ := h.iterable.writesAny
  obtain ⟨iterable, key, value⟩ := header
  have last := Spells.one (lexes_variable h.value)
  cases key with
  | none =>
    exact ⟨_, spelled.append (.word (lexes_keyword .as) last), .value derived (.dollarName value)⟩
  | some key =>
    have names := Spells.word (lexes_variable (h.key key rfl)) (.symbol .fatArrow last)
    exact ⟨_, spelled.append (.word (lexes_keyword .as) names),
      .pair derived (.dollarName key) (.dollarName value)⟩

theorem ForHeader.Printable.spells {header : ForHeader} (h : header.Printable) :
    ∃ ks, Spells header.words ks ∧ DerivesFor ks header := by
  obtain ⟨ks, first, one⟩ := spells_clause h.first
  obtain ⟨ls, condition, two⟩ := spells_condition h.condition
  obtain ⟨ms, step, three⟩ := spells_clause h.step
  exact ⟨_, first.append (.symbol .semicolon (condition.append (.symbol .semicolon step))),
    .clauses one two three⟩

/-! ## Reading it back -/

/-- What is printed is read as what was printed, by each of the four readers. -/
theorem parse_print :
    (∀ e : Expr, e.Printable → Expr.parse e.print.toList = .ok e) ∧
    (∀ ss : List Stmt, (∀ s ∈ ss, s.Printable) →
      Stmt.parseAll (Stmt.printAll ss).toList = .ok ss) ∧
    (∀ header : ForeachHeader, header.Printable →
      ForeachHeader.parse header.print.toList = .ok header) ∧
    (∀ header : ForHeader, header.Printable →
      ForHeader.parse header.print.toList = .ok header) := by
  refine ⟨fun e h => ?_, fun ss h => ?_, fun header h => ?_, fun header h => ?_⟩
  · obtain ⟨ks, spelled, derived⟩ := h.writesAny
    exact Expr.parse_eq_ok_iff.2 ⟨ks, spelled.lexes, derived⟩
  · obtain ⟨ks, spelled, derived⟩ := spells_statements h
    exact Stmt.parseAll_eq_ok_iff.2 ⟨ks, spelled.lexes, derived⟩
  · obtain ⟨ks, spelled, derived⟩ := h.spells
    exact ForeachHeader.parse_eq_ok_iff.2 ⟨ks, spelled.lexes, derived⟩
  · obtain ⟨ks, spelled, derived⟩ := h.spells
    exact ForHeader.parse_eq_ok_iff.2 ⟨ks, spelled.lexes, derived⟩

/-- Signs next to each other, a name after a digit, a word that is a keyword, quotes inside quotes, and
clauses without statements. -/
theorem parse_print_corners :
    Expr.parse "( $user.0 - - 1 ) .x ?? f ( 'it\\'s' , [ ] )".toList =
      .ok (.logical .coalesce
        (.member (.binary .sub (.path ⟨"user", [.index 0]⟩) (.unary .neg (.literal (.int 1))))
          (.key "x"))
        (.call "f" [.literal (.string "it's"), .array []])) ∧
    Stmt.parseAll "$true ++ ; ! $not".toList =
      .ok [.increment "true", .expr (.unary .not (.path ⟨"not", []⟩))] ∧
    ForeachHeader.parse "$as as $k => $v".toList = .ok ⟨.path ⟨"as", []⟩, some "k", "v"⟩ ∧
    ForHeader.parse "; ; $i -- , $j -= null".toList =
      .ok ⟨[], none, [.decrement "i", .assign "j" .sub (.literal .null)]⟩ := by
  have zero : (Segment.index 0).IsWord := ⟨"0", by decide, by decide⟩
  have x : (Segment.key "x").IsWord := ⟨"x", by decide, by decide⟩
  have age : (Expr.path ⟨"user", [.index 0]⟩).Printable :=
    .path (by decide) (List.forall_mem_singleton.2 zero)
  have name {word : String} (named : Text.isName word.toList = true) :
      (Expr.path ⟨word, []⟩).Printable := .path named (by rintro s ⟨⟩)
  refine ⟨?_, ?_, ?_, ?_⟩
  · refine Eq.trans (congrArg Expr.parse ?_) (parse_print.1 _ ?_)
    · rfl
    · have one : (Expr.literal (.int 1)).Printable := .int (by decide)
      have target := Expr.Printable.binary .sub age (.unary .neg one)
      have none : (Expr.array []).Printable := .array (by rintro e ⟨⟩)
      have args : ∀ e ∈ [Expr.literal (.string "it's"), .array []], e.Printable :=
        List.forall_mem_cons.2 ⟨.string _, List.forall_mem_singleton.2 none⟩
      exact .logical _ (.member target (by rintro p ⟨⟩) x) (.call (by decide) (by decide) args)
  · refine Eq.trans (congrArg Stmt.parseAll ?_) (parse_print.2.1 _ ?_)
    · rfl
    · exact List.forall_mem_cons.2 ⟨.increment (by decide),
        List.forall_mem_singleton.2 (.expr (.unary .not (name (by decide))))⟩
  · refine Eq.trans (congrArg ForeachHeader.parse ?_) (parse_print.2.2.1 _ ?_)
    · rfl
    · exact ⟨name (by decide), by rintro key ⟨⟩; decide, by decide⟩
  · refine Eq.trans (congrArg ForHeader.parse ?_) (parse_print.2.2.2 _ ?_)
    · rfl
    · exact ⟨by rintro s ⟨⟩, by rintro e ⟨⟩, List.forall_mem_cons.2 ⟨.decrement (by decide),
        List.forall_mem_singleton.2 (.assign .sub (by decide) .null)⟩⟩

end Stencil
