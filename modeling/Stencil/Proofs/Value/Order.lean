import Stencil.Expr.Eval
import Stencil.Proofs.Value.Rounding

/-!
# Loose equality and the order of numbers

Numbers and texts that spell numbers always have an order. They are loosely equal where the order says
so, and beside that where a text takes part and the two stand for integers that no double tells apart
(`loose_iff_compare`): loose equality compares the doubles next to them, and the order the integers.
-/

namespace Stencil

theorem Doubles.compareFloat_eq_some_eq {x y : Float} :
    compareFloat x y = some .eq ↔ (x == y) = true := by
  rw [compareFloat_eq, beq_iff]

theorem Doubles.exists_compareFloat {x y : Float} (one : x.isNaN = false) (two : y.isNaN = false) :
    ∃ o, compareFloat x y = some o := by
  rw [compareFloat_eq]
  exact exists_compare one two

namespace Number

variable {x y : Number}

def same : Number → Number → Bool
  | .int m, .int n => m == n
  | x, y => x.toFloat == y.toFloat

theorem compare_eq_some_eq : x.compare y = some .eq ↔ x.same y = true := by
  cases x with
  | float => exact Doubles.compareFloat_eq_some_eq
  | int m =>
    cases y with
    | float => exact Doubles.compareFloat_eq_some_eq
    | int n => simp [compare, same, Int64.toInt_inj]

theorem exists_compare (one : x.toFloat.isNaN = false) (two : y.toFloat.isNaN = false) :
    ∃ o, x.compare y = some o := by
  cases x with
  | float => exact Doubles.exists_compareFloat one two
  | int m =>
    cases y with
    | float => exact Doubles.exists_compareFloat one two
    | int n => exact ⟨_, rfl⟩

end Number

namespace Value

variable {a b : Value} {x y : Number}

def number? : Value → Option Number
  | .int n => some (.int n)
  | .float x => if x.isNaN then none else some (.float x)
  | .string s => readNumber? s
  | _ => none

theorem number?_float {f : Float} :
    (float f).number? = some x ↔ f.isNaN = false ∧ .float f = x := by
  rw [number?]
  split <;> simp_all

theorem toNumber_of_number? (h : a.number? = some x) : a.toNumber = .ok x := by
  cases a with
  | int n => exact congrArg Except.ok (Option.some.inj h)
  | float f => exact congrArg Except.ok (number?_float.1 h).2
  | string s =>
    have spelled : readNumber? s = some x := h
    unfold toNumber
    dsimp only
    rw [spelled]
  | _ => cases h

theorem isNaN_of_number? (h : a.number? = some x) : x.toFloat.isNaN = false := by
  cases a with
  | int n =>
    cases h
    exact Doubles.isNaN_nearestFloat _
  | float f =>
    obtain ⟨number, rfl⟩ := number?_float.1 h
    exact number
  | string s => exact Doubles.isNaN_of_readNumber? h
  | _ => cases h

theorem readNumber?_of_toNumber {s : String} (h : (string s).toNumber = .ok x) :
    readNumber? s = some x := by
  unfold toNumber at h
  dsimp only at h
  split at h
  · next n spelled =>
    cases h
    exact spelled
  · cases h

theorem compare?_of_toNumber (left : a.toNumber = .ok x) (right : b.toNumber = .ok y) :
    a.compare? b = x.compare y := by
  have numbers : a.compareNumbers b = x.compare y := by
    rw [compareNumbers, left, right]
  rw [← numbers]
  cases a with
  | string s =>
    have spelled := readNumber?_of_toNumber left
    cases b with
    | string t =>
      rw [compare?, spelled, readNumber?_of_toNumber right]
      rfl
    | null =>
      rw [compare?, spelled]
      rfl
    | _ => rfl
  | null =>
    cases b with
    | string t =>
      rw [compare?, readNumber?_of_toNumber right]
      rfl
    | _ => rfl
  | _ => cases b <;> rfl

theorem compare_eq_ok_iff {o : Ordering} : a.compare b = .ok o ↔ a.compare? b = some o := by
  unfold compare
  cases a.compare? b <;> simp

theorem compare_eq_ok {o : Ordering} (left : a.number? = some x) (right : b.number? = some y) :
    a.compare b = .ok o ↔ x.compare y = some o := by
  rw [compare_eq_ok_iff,
    compare?_of_toNumber (toNumber_of_number? left) (toNumber_of_number? right)]

theorem looseText_of_readNumber? {s printed : String} {f : Float} (read : readNumber? s = some x) :
    looseText s f printed = (f == x.toFloat) := by
  unfold looseText
  rw [read]

theorem looseTexts_of_readNumber? {s t : String} (one : readNumber? s = some x)
    (two : readNumber? t = some y) : looseTexts s t = (x.toFloat == y.toFloat) := by
  unfold looseTexts
  rw [one, two]

/-- Loose equality is exact between numbers, and goes by the nearest doubles beside a text. -/
theorem loose_of_number? (left : a.number? = some x) (right : b.number? = some y) :
    a.loose b = if a.kind = .string ∨ b.kind = .string then x.toFloat == y.toFloat else x.same y := by
  cases a with
  | int m =>
    cases left
    cases b with
    | int n => cases right; rfl
    | float f => obtain ⟨-, rfl⟩ := number?_float.1 right; rfl
    | string t => exact looseText_of_readNumber? right
    | _ => cases right
  | float f =>
    obtain ⟨-, rfl⟩ := number?_float.1 left
    cases b with
    | int n => cases right; rfl
    | float g => obtain ⟨-, rfl⟩ := number?_float.1 right; rfl
    | string t => exact looseText_of_readNumber? right
    | _ => cases right
  | string s =>
    cases b with
    | int n =>
      cases right
      exact (looseText_of_readNumber? left).trans (Doubles.beq_comm ..)
    | float g =>
      obtain ⟨-, rfl⟩ := number?_float.1 right
      exact (looseText_of_readNumber? left).trans (Doubles.beq_comm ..)
    | string t => exact looseTexts_of_readNumber? left right
    | _ => cases right
  | _ => cases left

/-- One of the two is a text, and they stand for different integers with the same nearest double. -/
def Blurred (a b : Value) : Prop :=
  (a.kind = .string ∨ b.kind = .string) ∧ ∃ m n : Int64, a.number? = some (.int m) ∧
    b.number? = some (.int n) ∧ m ≠ n ∧ (nearestFloat m.toInt == nearestFloat n.toInt) = true

theorem loose_iff (left : a.number? = some x) (right : b.number? = some y) :
    a.loose b = true ↔ a.compare b = .ok .eq ∨ Blurred a b := by
  rw [compare_eq_ok left right, Number.compare_eq_some_eq, loose_of_number? left right, Blurred, left,
    right]
  -- Beside a text both sides differ for two integers only, which `same` does not take as doubles.
  by_cases text : a.kind = .string ∨ b.kind = .string
  · rw [if_pos text]
    cases x with
    | float f => simp [Number.same]
    | int m =>
      cases y with
      | float g => simp [Number.same]
      | int n =>
        by_cases equal : m = n
        · subst equal
          have near := Doubles.beq_self_iff.2 (Doubles.isNaN_nearestFloat m.toInt)
          exact iff_of_true near (.inl (beq_self_eq_true m))
        · simp [Number.same, Number.toFloat, equal, text]
  · simp [text]

theorem Blurred.large (h : Blurred a b) : a.compare b ≠ .ok .eq ∧ ∃ m n : Int64,
    a.number? = some (.int m) ∧ b.number? = some (.int n) ∧
      (2 ^ 53 < m.toInt.natAbs ∨ 2 ^ 53 < n.toInt.natAbs) := by
  obtain ⟨-, m, n, left, right, different, near⟩ := h
  refine ⟨fun equal => ?_, m, n, left, right, ?_⟩
  · rw [compare_eq_ok left right, Number.compare_eq_some_eq] at equal
    exact different (beq_iff_eq.1 equal)
  · refine Classical.byContradiction fun small => ?_
    rw [not_or, Nat.not_lt, Nat.not_lt] at small
    exact different (Int64.toInt_inj.1 (Doubles.eq_of_nearestFloat_beq small.1 small.2 near))

/-- Numbers and texts that spell numbers have an order, and unless they are blurred `==` holds exactly
where both `<=` and `>=` do, and never with `<` or `>`. What is blurred is loosely equal and has an
order, and one of the two is an integer of more than 53 bits. -/
theorem loose_iff_compare (left : a.number? = some x) (right : b.number? = some y) :
    (∃ o, a.compare b = .ok o) ∧
    (a.loose b = true ↔ a.compare b = .ok .eq ∨ Blurred a b) ∧
    (Blurred a b → a.compare b ≠ .ok .eq ∧ ∃ m n : Int64, a.number? = some (.int m) ∧
      b.number? = some (.int n) ∧ (2 ^ 53 < m.toInt.natAbs ∨ 2 ^ 53 < n.toInt.natAbs)) ∧
    (¬Blurred a b →
      (BinaryOp.eq.apply a b = .ok (.bool true) ↔
        BinaryOp.le.apply a b = .ok (.bool true) ∧ BinaryOp.ge.apply a b = .ok (.bool true)) ∧
      (BinaryOp.eq.apply a b = .ok (.bool true) →
        BinaryOp.lt.apply a b = .ok (.bool false) ∧ BinaryOp.gt.apply a b = .ok (.bool false))) := by
  obtain ⟨o, known⟩ := Number.exists_compare (isNaN_of_number? left) (isNaN_of_number? right)
  have order : a.compare b = .ok o := (compare_eq_ok left right).2 known
  refine ⟨⟨o, order⟩, loose_iff left right, Blurred.large, fun sharp => ?_⟩
  have equal : a.loose b = true ↔ o = .eq := by
    rw [loose_iff left right, or_iff_left sharp, order]
    simp
  have loosely : BinaryOp.eq.apply a b = .ok (.bool true) ↔ o = .eq := by
    rw [BinaryOp.apply, ← equal]
    simp
  have tested : ∀ test, ordered test a b = .ok (.bool (test o)) := fun test => by
    rw [ordered, order]
    rfl
  rw [loosely, BinaryOp.apply, BinaryOp.apply, BinaryOp.apply, BinaryOp.apply, tested, tested, tested,
    tested]
  cases o <;> simp

theorem loose_iff_compare_wide : Blurred (.int 9007199254740993) (.string "9007199254740992") := by
  have left : (Value.int 9007199254740993).number? = some (.int 9007199254740993) := rfl
  have right : (Value.string "9007199254740992").number? = some (.int 9007199254740992) := rfl
  obtain ⟨-, loosely, -⟩ := loose_iff_compare left right
  refine (loosely.1 rfl).resolve_left ?_
  rw [compare_eq_ok left right]
  decide

theorem loose_ne_compare :
    ¬((Value.int 9007199254740993).loose (.string "9007199254740992") = true ↔
      (Value.int 9007199254740993).compare (.string "9007199254740992") = .ok .eq) := by
  have loosely : (Value.int 9007199254740993).loose (.string "9007199254740992") = true := rfl
  have order : (Value.int 9007199254740993).compare (.string "9007199254740992") = .ok .gt := rfl
  rw [order]
  exact fun same => nomatch same.1 loosely

end Value

end Stencil
