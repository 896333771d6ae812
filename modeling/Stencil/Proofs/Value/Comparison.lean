import Stencil.Proofs.Value.Order

/-!
# The laws of the order

Comparing two values the other way round reverses their order, and fails where it failed. Among the values
that stand for numbers `<` is transitive, although two integers are compared exactly and any other pair by
its doubles, because the doubles next to integers are in the order of the integers (`compare_laws`).
-/

namespace Stencil

theorem Doubles.compareFloat_swap (x y : Float) :
    compareFloat y x = (compareFloat x y).map Ordering.swap := by
  rw [compareFloat_eq, compareFloat_eq, compare_swap]

namespace Number

variable {x y z : Number}

theorem compare_swap (x y : Number) : y.compare x = (x.compare y).map Ordering.swap := by
  cases x with
  | float => cases y <;> apply Doubles.compareFloat_swap
  | int m =>
    cases y with
    | float => apply Doubles.compareFloat_swap
    | int n => exact congrArg some (Int.compare_swap ..).symm

/-! ## Transitivity -/

def place (x : Number) : ℤ ×ₗ ℤ ×ₗ ℤ :=
  Doubles.place x.toFloat.toModel.unpack

theorem compareFloat_eq_some_lt : compareFloat x.toFloat y.toFloat = some .lt ↔
    x.toFloat.isNaN = false ∧ y.toFloat.isNaN = false ∧ x.place < y.place := by
  rw [Doubles.compareFloat_eq]
  exact Doubles.compare_eq_some_lt

theorem compare_int {m n : Int64} : (int m).compare (int n) = some .lt ↔ m.toInt < n.toInt := by
  simp [compare, compare_lt_iff_lt]

theorem place_int_le {m n : Int64} (le : m.toInt ≤ n.toInt) : (int m).place ≤ (int n).place :=
  Doubles.place_nearestFloat_le (Doubles.natAbs_toInt_lt m) (Doubles.natAbs_toInt_lt n) le

/-- Integers next to each other may share their place. -/
theorem place_le_of_compare (h : x.compare y = some .lt) :
    x.toFloat.isNaN = false ∧ y.toFloat.isNaN = false ∧ x.place ≤ y.place := by
  have floats (h : compareFloat x.toFloat y.toFloat = some .lt) :
      x.toFloat.isNaN = false ∧ y.toFloat.isNaN = false ∧ x.place ≤ y.place := by
    obtain ⟨left, right, lt⟩ := compareFloat_eq_some_lt.1 h
    exact ⟨left, right, lt.le⟩
  cases x with
  | float => cases y <;> exact floats h
  | int m =>
    cases y with
    | float => exact floats h
    | int n =>
      have numbers := Doubles.isNaN_nearestFloat
      exact ⟨numbers _, numbers _, place_int_le (compare_int.1 h).le⟩

theorem compare_of_place_lt (left : x.toFloat.isNaN = false) (right : y.toFloat.isNaN = false)
    (lt : x.place < y.place) : x.compare y = some .lt := by
  have floats := compareFloat_eq_some_lt.2 ⟨left, right, lt⟩
  cases x with
  | float => cases y <;> exact floats
  | int m =>
    cases y with
    | float => exact floats
    | int n =>
      refine compare_int.2 (Int.not_le.1 fun le => ?_)
      exact (place_int_le le).not_gt lt

theorem compare_trans (one : x.compare y = some .lt) (two : y.compare z = some .lt) :
    x.compare z = some .lt := by
  obtain ⟨left, -, first⟩ := place_le_of_compare one
  obtain ⟨-, right, second⟩ := place_le_of_compare two
  -- Unless all three are integers, one of the two steps is between different places.
  cases y with
  | float f =>
    have lt : x.place < (float f).place := by
      cases x <;> exact (compareFloat_eq_some_lt.1 one).2.2
    exact compare_of_place_lt left right (lt.trans_le second)
  | int n =>
    cases x with
    | float f =>
      have lt : (float f).place < (int n).place := (compareFloat_eq_some_lt.1 one).2.2
      exact compare_of_place_lt left right (lt.trans_le second)
    | int m =>
      cases z with
      | float f =>
        have lt : (int n).place < (float f).place := (compareFloat_eq_some_lt.1 two).2.2
        exact compare_of_place_lt left right (first.trans_lt lt)
      | int k => exact compare_int.2 ((compare_int.1 one).trans (compare_int.1 two))

end Number

namespace Value

variable {a b c : Value} {x y z : Number} {o : Ordering}

theorem compareNumbers_swap (a b : Value) :
    b.compareNumbers a = (a.compareNumbers b).map Ordering.swap := by
  unfold compareNumbers
  cases a.toNumber with
  | error => cases b.toNumber <;> rfl
  | ok x =>
    cases b.toNumber with
    | error => rfl
    | ok y => exact Number.compare_swap x y

theorem compare?_swap (a b : Value) : b.compare? a = (a.compare? b).map Ordering.swap := by
  have numbers := compareNumbers_swap a b
  have texts (s t : String) : some (Ord.compare t s) = (some (Ord.compare s t)).map Ordering.swap :=
    congrArg some Std.OrientedOrd.eq_swap
  cases a with
  | string s =>
    cases b with
    | string t =>
      rw [compare?, compare?, Bool.and_comm]
      split
      · exact numbers
      · apply texts
    | null =>
      rw [compare?, compare?]
      split
      · exact numbers
      · apply texts
    | _ => exact numbers
  | null =>
    cases b with
    | string t =>
      rw [compare?, compare?]
      split
      · exact numbers
      · apply texts
    | _ => exact numbers
  | _ => cases b <;> exact numbers

theorem compare_eq_error_iff {f : Fault} :
    a.compare b = .error f ↔ a.compare? b = none ∧ f = .incomparable a.kind b.kind := by
  unfold compare
  cases a.compare? b <;> simp [eq_comm]

theorem compare_eq_ok_swap : a.compare b = .ok o ↔ b.compare a = .ok o.swap := by
  rw [compare_eq_ok_iff, compare_eq_ok_iff, compare?_swap a b]
  cases a.compare? b with
  | none => simp
  | some p => cases o <;> cases p <;> simp

theorem compare_trans (left : a.toNumber = .ok x) (middle : b.toNumber = .ok y)
    (right : c.toNumber = .ok z) (one : a.compare b = .ok .lt) (two : b.compare c = .ok .lt) :
    a.compare c = .ok .lt := by
  rw [compare_eq_ok_iff] at one two ⊢
  rw [compare?_of_toNumber left middle] at one
  rw [compare?_of_toNumber middle right] at two
  rw [compare?_of_toNumber left right]
  exact Number.compare_trans one two

/-! ## The laws -/

theorem ordered_eq_ok_iff {test : Ordering → Bool} {v : Value} :
    ordered test a b = .ok v ↔ ∃ o, a.compare b = .ok o ∧ v = .bool (test o) := by
  unfold ordered
  cases a.compare b <;> simp [Except.map, eq_comm]

theorem ordered_swap {test turned : Ordering → Bool} (same : ∀ o : Ordering, turned o.swap = test o)
    (a b v : Value) : ordered test a b = .ok v ↔ ordered turned b a = .ok v := by
  rw [ordered_eq_ok_iff, ordered_eq_ok_iff]
  constructor
  · rintro ⟨o, order, rfl⟩
    exact ⟨o.swap, compare_eq_ok_swap.1 order, by rw [same]⟩
  · rintro ⟨o, order, rfl⟩
    refine ⟨o.swap, compare_eq_ok_swap.1 order, ?_⟩
    rw [← same, Ordering.swap_swap]

def Numeric (v : Value) : Prop :=
  ∃ x, v.toNumber = .ok x

def ExactlyOne (p q r : Prop) : Prop :=
  (p ∧ ¬q ∧ ¬r) ∨ (¬p ∧ q ∧ ¬r) ∨ (¬p ∧ ¬q ∧ r)

/-- The order of two values is the reverse of their order the other way round, two values that have an
order have exactly one, and on the values that stand for numbers `<` is transitive. -/
theorem compare_laws :
    (∀ a b : Value, (∃ f, a.compare b = .error f) ↔ ∃ f, b.compare a = .error f) ∧
    (∀ (a b : Value) (o : Ordering), a.compare b = .ok o ↔ b.compare a = .ok o.swap) ∧
    (∀ a b v : Value, BinaryOp.lt.apply a b = .ok v ↔ BinaryOp.gt.apply b a = .ok v) ∧
    (∀ a b v : Value, BinaryOp.le.apply a b = .ok v ↔ BinaryOp.ge.apply b a = .ok v) ∧
    (∀ (a b : Value) (o : Ordering), a.compare b = .ok o →
      ExactlyOne (BinaryOp.lt.apply a b = .ok (.bool true)) (a.compare b = .ok .eq)
        (BinaryOp.gt.apply a b = .ok (.bool true))) ∧
    ∀ a b c : Value, a.Numeric → b.Numeric → c.Numeric →
      BinaryOp.lt.apply a b = .ok (.bool true) → BinaryOp.lt.apply b c = .ok (.bool true) →
      BinaryOp.lt.apply a c = .ok (.bool true) := by
  have less {a b : Value} : BinaryOp.lt.apply a b = .ok (.bool true) ↔ a.compare b = .ok .lt := by
    rw [BinaryOp.apply, ordered_eq_ok_iff]
    simp
  have greater {a b : Value} : BinaryOp.gt.apply a b = .ok (.bool true) ↔ a.compare b = .ok .gt := by
    rw [BinaryOp.apply, ordered_eq_ok_iff]
    simp
  refine ⟨fun a b => ?_, fun a b o => compare_eq_ok_swap, fun a b v => ?_, fun a b v => ?_,
    fun a b o order => ?_, fun a b c left middle right one two => ?_⟩
  · simp only [compare_eq_error_iff, exists_eq_right, compare?_swap a b, Option.map_eq_none_iff]
  · exact ordered_swap (by decide) a b v
  · exact ordered_swap (by decide) a b v
  · rw [less, greater, order]
    cases o <;> simp [ExactlyOne]
  · obtain ⟨x, left⟩ := left
    obtain ⟨y, middle⟩ := middle
    obtain ⟨z, right⟩ := right
    rw [less] at one two ⊢
    exact compare_trans left middle right one two

theorem compare_laws_wide :
    let a : Value := .int 9007199254740992
    let b : Value := .int 9007199254740993
    let c : Value := .string "9007199254740994.0"
    (nearestFloat 9007199254740992 == nearestFloat 9007199254740993) = true ∧
      a.Numeric ∧ b.Numeric ∧ c.Numeric ∧
      BinaryOp.lt.apply a b = .ok (.bool true) ∧ BinaryOp.lt.apply b c = .ok (.bool true) ∧
      BinaryOp.lt.apply a c = .ok (.bool true) ∧
      b.compare c = .ok .lt ∧
      ExactlyOne (BinaryOp.lt.apply b c = .ok (.bool true)) (b.compare c = .ok .eq)
        (BinaryOp.gt.apply b c = .ok (.bool true)) := by
  intro a b c
  obtain ⟨-, -, -, -, one, trans⟩ := compare_laws
  have left : a.Numeric := ⟨_, rfl⟩
  have middle : b.Numeric := ⟨_, rfl⟩
  have right : c.Numeric := ⟨_, rfl⟩
  have first : BinaryOp.lt.apply a b = .ok (.bool true) := rfl
  have second : BinaryOp.lt.apply b c = .ok (.bool true) := rfl
  have order : b.compare c = .ok .lt := rfl
  exact ⟨rfl, left, middle, right, first, second, trans a b c left middle right first second, order,
    one b c .lt order⟩

end Value

end Stencil
