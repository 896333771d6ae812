import Stencil.Expr.Parser
import Stencil.Proofs.InPlace.Lexing

/-!
# A position among tokens

A cursor is an index into the tokens of a text, of which the end of the text is the last one. It never
leaves them: it stays at the end. A cursor is at the tokens `ts` if these are what is left from there
on.
-/

namespace Stencil
open InPlace

namespace Cursor

def isSymbol (s : Symbol) : Option TokenKind → Bool
  | some (.symbol found) => found = s
  | _ => false

def isSeparator (kind : Option TokenKind) : Bool :=
  isSymbol .semicolon kind || isSymbol .comma kind

/-- A value, and a cursor ahead of `pos`. -/
structure Ahead (α : Type) (spots : List Spot) (pos : Nat) where
  value : α
  next : Nat
  ahead : spots.length - next < spots.length - pos

/-- A value, and a cursor at `pos` or ahead of it. -/
structure Onward (α : Type) (spots : List Spot) (pos : Nat) where
  value : α
  next : Nat
  onward : spots.length - next ≤ spots.length - pos

section Moves

variable (spots : List Spot)

def current (pos : Nat) : InPlace Spot := do
  index spots (min pos (← minus spots.length 1))

def peek (pos : Nat) : InPlace (Option TokenKind) := do
  return (← current spots pos).kind

def peekNext (pos : Nat) : InPlace (Option TokenKind) := do
  return (← index spots (min (pos + 1) (← minus spots.length 1))).kind

def advance (pos : Nat) : InPlace (Onward Unit spots pos) := do
  if pos < (← minus spots.length 1) then return ⟨(), pos + 1, by omega⟩
  else return ⟨(), pos, Nat.le_refl _⟩

def take {α : Type} (value : α) (pos : Nat) : InPlace (Ahead α spots pos) := do
  let ⟨_, next, _⟩ ← advance spots pos
  if ahead : spots.length - next < spots.length - pos then return ⟨value, next, ahead⟩
  else breach .standstill

def unexpected {α : Type} (pos : Nat) (what : Expected) : InPlace α := do
  let spot ← current spots pos
  refuse (.malformed spot.offset (.expected what spot.kind))

def eat (s : Symbol) (pos : Nat) : InPlace (Option (Ahead Unit spots pos)) := do
  if isSymbol s (← peek spots pos) then return some (← take spots () pos) else return none

def expect (s : Symbol) (pos : Nat) : InPlace (Ahead Unit spots pos) := do
  match ← eat spots s pos with
  | some passed => return passed
  | none => unexpected spots pos (.symbol s)

def expectEnd (pos : Nat) : InPlace Unit := do
  match ← peek spots pos with
  | none => return ()
  | some _ => unexpected spots pos .ending

def memberName (pos : Nat) : InPlace (Ahead Segment spots pos) := do
  match ← peek spots pos with
  | some (.segment word) | some (.ident word) => take spots (Segment.ofText word) pos
  | _ => unexpected spots pos .memberName

def bindingName (pos : Nat) : InPlace (Ahead String spots pos) := do
  match ← peek spots pos with
  | some (.ident word) =>
    if isKeyword word then unexpected spots pos .variableName else take spots word pos
  | some (.variable name) => take spots name pos
  | _ => unexpected spots pos .variableName

def asWord (pos : Nat) : InPlace (Ahead Unit spots pos) := do
  match ← peek spots pos with
  | some (.ident word) =>
    if Keyword.ofText? word = some .as then take spots () pos else unexpected spots pos .asWord
  | _ => unexpected spots pos .asWord

/-! ## Expressions -/

mutual

def expression (least pos : Nat) : InPlace (Ahead Expr spots pos) := do
  let ⟨first, next, _⟩ ← operand pos
  let ⟨whole, next, _⟩ ← continuation least first next
  return ⟨whole, next, by omega⟩
termination_by (spots.length - pos, 1)

def continuation (least : Nat) (left : Expr) (pos : Nat) : InPlace (Onward Expr spots pos) := do
  match (← peek spots pos).bind Infix.ofToken? with
  | none => return ⟨left, pos, Nat.le_refl _⟩
  | some op =>
    if op.level < least then return ⟨left, pos, Nat.le_refl _⟩
    else
      let ⟨_, next, _⟩ ← take spots () pos
      let ⟨whole, next, _⟩ ← application op left next
      let ⟨whole, next, _⟩ ← continuation least whole next
      return ⟨whole, next, by omega⟩
termination_by (spots.length - pos, 0)

def application (op : Infix) (left : Expr) (pos : Nat) : InPlace (Ahead Expr spots pos) := do
  match op with
  | .conditional =>
    let ⟨yes, next, _⟩ ← expression 0 pos
    let ⟨_, next, _⟩ ← expect spots .colon next
    let ⟨no, next, _⟩ ← expression Infix.conditionalLevel next
    return ⟨.conditional left yes no, next, by omega⟩
  | .logical op =>
    let ⟨right, next, _⟩ ← expression op.rightLevel pos
    return ⟨.logical op left right, next, by omega⟩
  | .binary op =>
    let ⟨right, next, _⟩ ← expression op.rightLevel pos
    return ⟨.binary op left right, next, by omega⟩
  | .member =>
    let ⟨segment, next, _⟩ ← memberName spots pos
    return ⟨Parser.member left segment, next, by omega⟩
  | .subscript =>
    let ⟨inner, next, _⟩ ← expression 0 pos
    let ⟨_, next, _⟩ ← expect spots .rBracket next
    return ⟨.index left inner, next, by omega⟩
termination_by (spots.length - pos, 2)

def operand (pos : Nat) : InPlace (Ahead Expr spots pos) := do
  match ← peek spots pos with
  | some (.int n) => take spots (.literal (.int n)) pos
  | some (.float x) => take spots (.literal (.float x)) pos
  | some (.str s) => take spots (.literal (.string s)) pos
  | some (.variable name) => take spots (.path ⟨name, []⟩) pos
  | some (.ident word) =>
    let ⟨_, next, _⟩ ← take spots () pos
    match Keyword.ofText? word with
    | some .true => return ⟨.literal (.bool true), next, by omega⟩
    | some .false => return ⟨.literal (.bool false), next, by omega⟩
    | some .null => return ⟨.literal .null, next, by omega⟩
    | some .not =>
      let ⟨e, next, _⟩ ← expression UnaryOp.level next
      return ⟨.unary .not e, next, by omega⟩
    | some keyword =>
      refuse (.malformed (← index spots (← minus next 1)).offset (.unexpectedKeyword keyword))
    | none =>
      match ← eat spots .lParen next with
      | some ⟨_, next, _⟩ =>
        let ⟨args, next, _⟩ ← items .rParen next
        return ⟨.call word args, next, by omega⟩
      | none => return ⟨.path ⟨word, []⟩, next, by omega⟩
  | some (.symbol .bang) =>
    let ⟨_, next, _⟩ ← take spots () pos
    let ⟨e, next, _⟩ ← expression UnaryOp.level next
    return ⟨.unary .not e, next, by omega⟩
  | some (.symbol .minus) =>
    let ⟨_, next, _⟩ ← take spots () pos
    let ⟨e, next, _⟩ ← expression UnaryOp.level next
    return ⟨.unary .neg e, next, by omega⟩
  | some (.symbol .lParen) =>
    let ⟨_, next, _⟩ ← take spots () pos
    let ⟨e, next, _⟩ ← expression 0 next
    let ⟨_, next, _⟩ ← expect spots .rParen next
    return ⟨e, next, by omega⟩
  | some (.symbol .lBracket) =>
    let ⟨_, next, _⟩ ← take spots () pos
    let ⟨es, next, _⟩ ← items .rBracket next
    return ⟨.array es, next, by omega⟩
  | _ => unexpected spots pos .expression
termination_by (spots.length - pos, 0)

def items (close : Symbol) (pos : Nat) : InPlace (Ahead (List Expr) spots pos) := do
  match ← eat spots close pos with
  | some ⟨_, next, _⟩ => return ⟨[], next, by omega⟩
  | none =>
    let ⟨e, next, _⟩ ← expression 0 pos
    match ← eat spots .comma next with
    | some ⟨_, next, _⟩ =>
      let ⟨es, next, _⟩ ← items close next
      return ⟨e :: es, next, by omega⟩
    | none =>
      let ⟨_, next, _⟩ ← expect spots close next
      return ⟨[e], next, by omega⟩
termination_by (spots.length - pos, 2)

end

/-! ## Statements and headers -/

def change (what : Parser.Change) (pos : Nat) : InPlace (Ahead Stmt spots pos) := do
  let ⟨name, next, _⟩ ← bindingName spots pos
  let ⟨_, next, _⟩ ← advance spots next
  match what with
  | .assign op =>
    let ⟨e, next, _⟩ ← expression spots 0 next
    return ⟨.assign name op e, next, by omega⟩
  | .increment => return ⟨.increment name, next, by omega⟩
  | .decrement => return ⟨.decrement name, next, by omega⟩

def announced? (pos : Nat) : InPlace (Option Parser.Change) := do
  if (← peek spots pos).any Parser.isNameToken then
    return (← peekNext spots pos).bind Parser.Change.ofToken?
  else return none

def statement (pos : Nat) : InPlace (Ahead Stmt spots pos) := do
  match ← eat spots .increment pos with
  | some ⟨_, next, _⟩ =>
    let ⟨name, next, _⟩ ← bindingName spots next
    return ⟨.increment name, next, by omega⟩
  | none =>
    match ← eat spots .decrement pos with
    | some ⟨_, next, _⟩ =>
      let ⟨name, next, _⟩ ← bindingName spots next
      return ⟨.decrement name, next, by omega⟩
    | none =>
      match ← announced? spots pos with
      | some what => change spots what pos
      | none =>
        let ⟨e, next, _⟩ ← expression spots 0 pos
        return ⟨.expr e, next, by omega⟩

def skipSeparators (pos : Nat) : InPlace (Onward Unit spots pos) := do
  if isSeparator (← peek spots pos) then
    let ⟨_, next, _⟩ ← take spots () pos
    let ⟨_, next, _⟩ ← skipSeparators next
    return ⟨(), next, by omega⟩
  else return ⟨(), pos, Nat.le_refl _⟩
termination_by spots.length - pos

def statements (pos : Nat) : InPlace (List Stmt) := do
  let ⟨_, next, _⟩ ← skipSeparators spots pos
  if (← peek spots next).isNone then return []
  else
    let ⟨s, next, _⟩ ← statement spots next
    let kind ← peek spots next
    if isSeparator kind || kind.isNone then return s :: (← statements next)
    else unexpected spots next (.symbol .semicolon)
termination_by spots.length - pos

def clauseTail (pos : Nat) : InPlace (Ahead (List Stmt) spots pos) := do
  let ⟨s, next, _⟩ ← statement spots pos
  match ← eat spots .comma next with
  | some ⟨_, next, _⟩ =>
    let ⟨ss, next, _⟩ ← clauseTail next
    return ⟨s :: ss, next, by omega⟩
  | none => return ⟨[s], next, by omega⟩
termination_by spots.length - pos

def clause (pos : Nat) : InPlace (Onward (List Stmt) spots pos) := do
  let kind ← peek spots pos
  if isSymbol .semicolon kind || kind.isNone then return ⟨[], pos, Nat.le_refl _⟩
  else
    let ⟨ss, next, _⟩ ← clauseTail spots pos
    return ⟨ss, next, by omega⟩

def condition (pos : Nat) : InPlace (Ahead (Option Expr) spots pos) := do
  if isSymbol .semicolon (← peek spots pos) then
    let ⟨_, next, _⟩ ← expect spots .semicolon pos
    return ⟨none, next, by omega⟩
  else
    let ⟨e, next, _⟩ ← expression spots 0 pos
    let ⟨_, next, _⟩ ← expect spots .semicolon next
    return ⟨some e, next, by omega⟩

def wholeExpression (pos : Nat) : InPlace Expr := do
  let ⟨e, next, _⟩ ← expression spots 0 pos
  expectEnd spots next
  return e

def foreachHeader (pos : Nat) : InPlace ForeachHeader := do
  let ⟨iterable, next, _⟩ ← expression spots 0 pos
  let ⟨_, next, _⟩ ← asWord spots next
  let ⟨name, next, _⟩ ← bindingName spots next
  match ← eat spots .fatArrow next with
  | some ⟨_, next, _⟩ =>
    let ⟨value, next, _⟩ ← bindingName spots next
    expectEnd spots next
    return ⟨iterable, some name, value⟩
  | none =>
    expectEnd spots next
    return ⟨iterable, none, name⟩

def forHeader (pos : Nat) : InPlace ForHeader := do
  let ⟨first, next, _⟩ ← clause spots pos
  let ⟨_, next, _⟩ ← expect spots .semicolon next
  let ⟨condition, next, _⟩ ← condition spots next
  let ⟨step, next, _⟩ ← clause spots next
  expectEnd spots next
  return ⟨first, condition, step⟩

end Moves

/-! ## What is left from a cursor on -/

/-- These tokens are left from the cursor on, in a text that ends at `stop`. -/
def At (spots : List Spot) (stop pos : Nat) (ts : List Token) : Prop :=
  spots.drop pos = ts.map Spot.ofToken ++ [⟨none, stop⟩]

def front (stop : Nat) : List Token → Spot
  | [] => ⟨none, stop⟩
  | t :: _ => .ofToken t

variable {spots : List Spot} {stop pos : Nat} {ts : List Token} {t : Token}

namespace At

theorem start (stop : Nat) (ts : List Token) :
    At (ts.map Spot.ofToken ++ [⟨none, stop⟩]) stop 0 ts :=
  rfl

theorem length (h : At spots stop pos ts) : spots.length - pos = ts.length + 1 := by
  have same := congrArg List.length h
  simpa using same

theorem getElem? (h : At spots stop pos ts) : spots[pos]? = some (front stop ts) := by
  rw [← List.head?_drop, h]
  cases ts <;> rfl

theorem next (h : At spots stop pos (t :: ts)) : At spots stop (pos + 1) ts := by
  rw [At, ← List.tail_drop, h]
  rfl

theorem current (h : At spots stop pos ts) : current spots pos = pure (front stop ts) := by
  have left := h.length
  rw [Cursor.current, minus_eq (by omega), pure_bind, Nat.min_eq_left (by omega)]
  exact index_eq h.getElem?

theorem peek (h : At spots stop pos ts) : peek spots pos = pure (front stop ts).kind := by
  rw [Cursor.peek, h.current, pure_bind]

theorem peekNext (h : At spots stop pos (t :: ts)) :
    peekNext spots pos = pure (front stop ts).kind := by
  have left := h.next.length
  rw [Cursor.peekNext, minus_eq (by omega), pure_bind, Nat.min_eq_left (by omega),
    index_eq h.next.getElem?, pure_bind]

theorem advance (h : At spots stop pos (t :: ts)) :
    ∃ onward, advance spots pos = pure ⟨(), pos + 1, onward⟩ := by
  have left := h.next.length
  refine ⟨by omega, ?_⟩
  rw [Cursor.advance, minus_eq (by omega), pure_bind, if_pos (by omega)]

theorem take {α : Type} (value : α) (h : At spots stop pos (t :: ts)) :
    ∃ ahead, take spots value pos = pure ⟨value, pos + 1, ahead⟩ := by
  have left := h.next.length
  obtain ⟨_, moved⟩ := h.advance
  refine ⟨by omega, ?_⟩
  rw [Cursor.take, moved, pure_bind]
  exact dif_pos _

theorem tail (h : At spots stop pos ts) :
    ∃ next onward, Cursor.advance spots pos = pure ⟨(), next, onward⟩ ∧
      At spots stop next ts.tail := by
  cases ts with
  | cons t ts =>
    obtain ⟨onward, moved⟩ := h.advance
    exact ⟨pos + 1, onward, moved, h.next⟩
  | nil =>
    have left := h.length
    refine ⟨pos, Nat.le_refl _, ?_, h⟩
    rw [List.length_nil] at left
    rw [Cursor.advance, minus_eq (by omega), pure_bind, if_neg (by omega)]

theorem unexpected {α : Type} (h : At spots stop pos ts) (what : Expected) :
    (unexpected spots pos what : InPlace α) = refuse (Parser.refusal stop what ts) := by
  rw [Cursor.unexpected, h.current, pure_bind]
  cases ts <;> rfl

end At

end Cursor

end Stencil
