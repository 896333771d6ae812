import Stencil.Expr.Eval
import Stencil.Proofs.Value.Rounding

namespace Stencil

theorem int64?_eq_some_iff {n : Int} {x : Int64} : int64? n = some x ↔ x.toInt = n := by
  unfold int64?
  split
  · next fits =>
    rw [Option.some_inj]
    constructor
    · rintro rfl
      exact Int64.toInt_ofInt_of_le fits.1 (Int.lt_add_one_of_le fits.2)
    · rintro rfl
      exact Int64.ofInt_toInt x
  · next outside =>
    simp only [reduceCtorEq, false_iff]
    rintro rfl
    exact outside ⟨x.le_toInt, x.toInt_le⟩

theorem int64?_eq_none_iff {n : Int} : int64? n = none ↔ ∀ x : Int64, x.toInt ≠ n := by
  rw [Option.eq_none_iff_forall_ne_some]
  exact forall_congr' fun x => not_congr int64?_eq_some_iff

theorem int64?_eq_none_iff_outside {n : Int} : int64? n = none ↔ n < -2 ^ 63 ∨ 2 ^ 63 ≤ n := by
  rw [int64?, Int64.toInt_minValue, Int64.toInt_maxValue]
  split
  · simp only [reduceCtorEq, false_iff]
    omega
  · simp only [true_iff]
    omega

/-! ## Operations on numbers -/

/-- The outcome is the integer of which the statement holds, and the double if it holds of none. -/
def Settles (outcome : Except Fault Value) (exact : Int64 → Prop) (rounded : Float) : Prop :=
  (∀ n, outcome = .ok (.int n) ↔ exact n) ∧ ((∀ n, ¬exact n) → outcome = .ok (.float rounded))

theorem settles_int64? (n : Int) (rounded : Float) :
    Settles (.ok (((int64? n).map .int).getD (.float rounded) : Number).toValue)
      (fun k => k.toInt = n) rounded := by
  cases held : int64? n with
  | none =>
    have outside := int64?_eq_none_iff.1 held
    exact ⟨fun k => by simp [Number.toValue, outside k], fun _ => rfl⟩
  | some m =>
    have same := int64?_eq_some_iff.1 held
    refine ⟨fun k => ?_, fun outside => absurd same (outside m)⟩
    simp [Number.toValue, ← same, Int64.toInt_inj, eq_comm]

namespace Number

variable {x y : Int64}

theorem toFloat_beq_zero_iff : ((int y).toFloat == 0) = true ↔ y = 0 :=
  (Doubles.nearestFloat_beq_zero_iff (Doubles.natAbs_toInt_lt y)).trans (Int64.toInt_inj (y := 0))

theorem divide_settles (x : Int64) (nonzero : y ≠ 0) : ∃ result,
    divide (.int x) (.int y) = .ok result ∧ Settles (.ok result.toValue)
      (fun q => q.toInt * y.toInt = x.toInt) ((int x).toFloat / (int y).toFloat) := by
  have divisor : y.toInt ≠ 0 := fun zero => nonzero (Int64.toInt_inj.1 zero)
  unfold divide
  rw [if_neg (mt toFloat_beq_zero_iff.1 nonzero)]
  dsimp only
  split
  · next whole =>
    have quotient (q : Int64) : q.toInt * y.toInt = x.toInt ↔ q.toInt = x.toInt.tdiv y.toInt := by
      constructor
      · intro product
        rw [← product, Int.mul_tdiv_cancel _ divisor]
      · rintro same
        rw [same, Int.tdiv_mul_cancel_of_tmod_eq_zero whole]
    refine ⟨_, rfl, ?_⟩
    simp only [quotient]
    apply settles_int64?
  · next part =>
    have none (q : Int64) : q.toInt * y.toInt ≠ x.toInt := fun whole =>
      part (Int.tmod_eq_zero_of_dvd ⟨q.toInt, by rw [Int.mul_comm, whole]⟩)
    exact ⟨_, rfl, fun q => by simp [toValue, none q], fun _ => rfl⟩

theorem modulo_int (x : Int64) (nonzero : y ≠ 0) : ∃ r : Int64,
    modulo (.int x) (.int y) = .ok (.int r) ∧ r.toInt = x.toInt.tmod y.toInt := by
  have divisor : y.toInt ≠ 0 := fun zero => nonzero (Int64.toInt_inj.1 zero)
  have size : (x.toInt.tmod y.toInt).natAbs < y.toInt.natAbs := by
    rw [Int.natAbs_tmod]
    exact Nat.mod_lt _ (Int.natAbs_pos.2 divisor)
  have low := y.le_toInt
  have high := y.toInt_lt
  refine ⟨Int64.ofInt (x.toInt.tmod y.toInt), if_neg divisor, ?_⟩
  apply Int64.toInt_ofInt_of_le <;> omega

theorem exists_quotient_iff (nonzero : y ≠ 0) (whole : y.toInt ∣ x.toInt) :
    (∃ q : Int64, q.toInt * y.toInt = x.toInt) ↔ x.toInt ≠ 2 ^ 63 * y.toInt := by
  have divisor : y.toInt ≠ 0 := fun zero => nonzero (Int64.toInt_inj.1 zero)
  constructor
  · rintro ⟨q, product⟩ beyond
    have high := q.toInt_lt
    have same : q.toInt = 2 ^ 63 := Int.eq_of_mul_eq_mul_right divisor (product.trans beyond)
    omega
  · intro inside
    obtain ⟨k, product⟩ := whole
    have size : k.natAbs ≤ x.toInt.natAbs := by
      rw [product, Int.natAbs_mul]
      exact Nat.le_mul_of_pos_left _ (Int.natAbs_pos.2 divisor)
    have other : k ≠ 2 ^ 63 := by
      rintro rfl
      exact inside (product.trans (Int.mul_comm ..))
    have low := x.le_toInt
    have high := x.toInt_lt
    refine ⟨Int64.ofInt k, ?_⟩
    rw [Int64.toInt_ofInt_of_le (by omega) (by omega), Int.mul_comm]
    exact product.symm

end Number

/-! ## Operations on values -/

namespace Value

variable {a b : Value} {x y : Int64}

theorem operand_of_toNumber {n : Number} (h : a.toNumber = .ok n) : operand a = .ok n := by
  rw [operand, h]
  rfl

theorem combine_settles (op : RingOp) (left : a.toNumber = .ok (.int x))
    (right : b.toNumber = .ok (.int y)) : Settles (combine op a b)
      (fun n => n.toInt = op.onInt x.toInt y.toInt)
      (op.onFloat (nearestFloat x.toInt) (nearestFloat y.toInt)) := by
  unfold combine
  rw [operand_of_toNumber left, operand_of_toNumber right]
  apply settles_int64?

theorem negate_settles (left : a.toNumber = .ok (.int x)) :
    Settles a.negate (fun n => n.toInt = -x.toInt) (-nearestFloat x.toInt) := by
  unfold negate
  rw [operand_of_toNumber left]
  apply settles_int64?

theorem divide_eq (left : a.toNumber = .ok (.int x)) (right : b.toNumber = .ok (.int y)) :
    a.divide b = (Number.divide (.int x) (.int y)).map Number.toValue := by
  unfold divide
  rw [operand_of_toNumber left, operand_of_toNumber right]
  show (Number.divide (.int x) (.int y) >>= fun n => pure n.toValue) = _
  cases Number.divide (.int x) (.int y) <;> rfl

theorem modulo_eq (left : a.toNumber = .ok (.int x)) (right : b.toNumber = .ok (.int y)) :
    a.modulo b = (Number.modulo (.int x) (.int y)).map Number.toValue := by
  unfold modulo
  rw [operand_of_toNumber left, operand_of_toNumber right]
  show (Number.modulo (.int x) (.int y) >>= fun n => pure n.toValue) = _
  cases Number.modulo (.int x) (.int y) <;> rfl

theorem divide_settles (left : a.toNumber = .ok (.int x)) (right : b.toNumber = .ok (.int y))
    (nonzero : y ≠ 0) : Settles (a.divide b) (fun q => q.toInt * y.toInt = x.toInt)
      (nearestFloat x.toInt / nearestFloat y.toInt) := by
  obtain ⟨result, quotient, settled⟩ := Number.divide_settles x nonzero
  rw [divide_eq left right, quotient]
  exact settled

theorem modulo_int (left : a.toNumber = .ok (.int x)) (right : b.toNumber = .ok (.int y))
    (nonzero : y ≠ 0) : ∃ r : Int64,
      a.modulo b = .ok (.int r) ∧ r.toInt = x.toInt.tmod y.toInt := by
  obtain ⟨r, remainder, same⟩ := Number.modulo_int x nonzero
  rw [modulo_eq left right, remainder]
  exact ⟨r, rfl, same⟩

theorem divide_error_iff (left : a.toNumber = .ok (.int x)) (right : b.toNumber = .ok (.int y)) :
    (∃ f, a.divide b = .error f) ↔ y = 0 := by
  constructor
  · rintro ⟨f, refused⟩
    refine Classical.byContradiction fun nonzero => ?_
    obtain ⟨result, quotient, -⟩ := Number.divide_settles x nonzero
    rw [divide_eq left right, quotient] at refused
    cases refused
  · rintro rfl
    exact ⟨.divisionByZero, divide_eq left right⟩

theorem modulo_error_iff (left : a.toNumber = .ok (.int x)) (right : b.toNumber = .ok (.int y)) :
    (∃ f, a.modulo b = .error f) ↔ y = 0 := by
  constructor
  · rintro ⟨f, refused⟩
    refine Classical.byContradiction fun nonzero => ?_
    obtain ⟨r, remainder, -⟩ := modulo_int left right nonzero
    rw [remainder] at refused
    cases refused
  · rintro rfl
    exact ⟨.moduloByZero, modulo_eq left right⟩

theorem remainder_laws (left : a.toNumber = .ok (.int x)) (right : b.toNumber = .ok (.int y))
    (nonzero : y ≠ 0) : ∃ r : Int64, a.modulo b = .ok (.int r) ∧
      y.toInt ∣ x.toInt - r.toInt ∧ r.toInt.natAbs < y.toInt.natAbs ∧
      (r.toInt = 0 ∨ r.toInt.sign = x.toInt.sign) := by
  obtain ⟨r, remainder, same⟩ := modulo_int left right nonzero
  have divisor : y.toInt ≠ 0 := fun zero => nonzero (Int64.toInt_inj.1 zero)
  refine ⟨r, remainder, ?_, ?_, ?_⟩
  · rw [same]
    exact Int.dvd_self_sub_tmod
  · rw [same, Int.natAbs_tmod]
    exact Nat.mod_lt _ (Int.natAbs_pos.2 divisor)
  · have sign := Int.sign_tmod x.toInt y.toInt
    rw [← same] at sign
    split at sign
    · exact .inl (Int.sign_eq_zero_iff_zero.1 sign)
    · exact .inr sign

theorem exists_divide_iff {r d : Int64} (left : a.toNumber = .ok (.int x))
    (right : b.toNumber = .ok (.int y)) (remainder : a.modulo b = .ok (.int r))
    (difference : d.toInt = x.toInt - r.toInt) :
    (∃ q, (int d).divide b = .ok (.int q)) ↔ d.toInt ≠ 2 ^ 63 * y.toInt := by
  have nonzero : y ≠ 0 := by
    intro zero
    obtain ⟨f, refused⟩ := (modulo_error_iff left right).2 zero
    rw [remainder] at refused
    cases refused
  obtain ⟨s, again, whole, -⟩ := remainder_laws left right nonzero
  rw [remainder] at again
  cases again
  rw [← difference] at whole
  rw [← Number.exists_quotient_iff nonzero whole]
  exact exists_congr (divide_settles rfl right nonzero).1

/-- What arithmetic makes of two values that stand for integers. -/
theorem integer_arithmetic (left : a.toNumber = .ok (.int x)) (right : b.toNumber = .ok (.int y)) :
    Settles (BinaryOp.add.apply a b) (fun n => n.toInt = x.toInt + y.toInt)
      (nearestFloat x.toInt + nearestFloat y.toInt) ∧
    Settles (BinaryOp.sub.apply a b) (fun n => n.toInt = x.toInt - y.toInt)
      (nearestFloat x.toInt - nearestFloat y.toInt) ∧
    Settles (BinaryOp.mul.apply a b) (fun n => n.toInt = x.toInt * y.toInt)
      (nearestFloat x.toInt * nearestFloat y.toInt) ∧
    Settles (UnaryOp.neg.apply a) (fun n => n.toInt = -x.toInt) (-nearestFloat x.toInt) ∧
    ((∃ f, BinaryOp.div.apply a b = .error f) ↔ y = 0) ∧
    (y ≠ 0 → Settles (BinaryOp.div.apply a b) (fun q => q.toInt * y.toInt = x.toInt)
      (nearestFloat x.toInt / nearestFloat y.toInt)) ∧
    ((∃ f, BinaryOp.mod.apply a b = .error f) ↔ y = 0) ∧
    (y ≠ 0 → ∃ r : Int64, BinaryOp.mod.apply a b = .ok (.int r) ∧
      y.toInt ∣ x.toInt - r.toInt ∧ r.toInt.natAbs < y.toInt.natAbs ∧
      (r.toInt = 0 ∨ r.toInt.sign = x.toInt.sign)) ∧
    ∀ r d : Int64, BinaryOp.mod.apply a b = .ok (.int r) → d.toInt = x.toInt - r.toInt →
      BinaryOp.sub.apply a (.int r) = .ok (.int d) ∧
      ((∃ q, BinaryOp.div.apply (.int d) b = .ok (.int q)) ↔ d.toInt ≠ 2 ^ 63 * y.toInt) := by
  refine ⟨combine_settles .add left right, combine_settles .sub left right,
    combine_settles .mul left right, negate_settles left, divide_error_iff left right,
    divide_settles left right, modulo_error_iff left right, remainder_laws left right,
    fun r d remainder difference => ⟨?_, exists_divide_iff left right remainder difference⟩⟩
  obtain ⟨settled, -⟩ := combine_settles .sub left (b := .int r) rfl
  exact (settled d).2 difference

theorem integer_arithmetic_least :
    let a : Value := .string "-9223372036854775808"
    let b : Value := .int (-1)
    a.toNumber = .ok (.int Int64.minValue) ∧ b.toNumber = .ok (.int (-1)) ∧
      BinaryOp.mul.apply a b = .ok (.float (nearestFloat (-2 ^ 63) * nearestFloat (-1))) ∧
      UnaryOp.neg.apply a = .ok (.float (-nearestFloat (-2 ^ 63))) ∧
      (¬∃ f, BinaryOp.div.apply a b = .error f) ∧
      BinaryOp.div.apply a b = .ok (.float (nearestFloat (-2 ^ 63) / nearestFloat (-1))) ∧
      (∃ r : Int64, BinaryOp.mod.apply a b = .ok (.int r) ∧ r.toInt = 0) ∧
      ¬∃ q, BinaryOp.div.apply (.int Int64.minValue) b = .ok (.int q) := by
  intro a b
  have left : a.toNumber = .ok (.int Int64.minValue) := rfl
  have right : b.toNumber = .ok (.int (-1)) := rfl
  have beyond (n : Int64) : n.toInt ≠ 2 ^ 63 := by
    have high := n.toInt_lt
    omega
  obtain ⟨-, -, product, negated, refused, quotient, -, remainder, again⟩ :=
    integer_arithmetic left right
  have nonzero : (-1 : Int64) ≠ 0 := by decide
  obtain ⟨r, rest, whole, size, -⟩ := remainder nonzero
  have small : r.toInt.natAbs < 1 := size
  have none : r.toInt = 0 := by omega
  have difference : Int64.minValue.toInt = Int64.minValue.toInt - r.toInt := by omega
  refine ⟨left, right, product.2 beyond, negated.2 beyond, mt refused.1 nonzero,
    (quotient nonzero).2 fun n same => beyond n ?_, ⟨r, rest, none⟩,
    fun held => (again r _ rest difference).2.1 held rfl⟩
  have same : n.toInt * -1 = -2 ^ 63 := same
  omega

end Value

end Stencil
