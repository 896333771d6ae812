import Mathlib
import Stencil.Value.Compare

/-!
# Doubles

Equality of doubles is symmetric, transitive, and reflexive except at what is no number, and their order
is linear: it goes by their place (`compare_eq_place`). No text spells what is no number
(`isNaN_of_readNumber?`).
-/

namespace Stencil.Doubles
open Float.Model

variable {u v : UnpackedFloat} {x y z : Float}

/-! ## Equality and order -/

theorem compare_eq_some_eq : u.compare v = some .eq ↔
    u ≠ .notANumber ∧ (u = v ∨ ∃ s t, u = .zero s ∧ v = .zero t) := by
  cases u with
  | notANumber => simp [UnpackedFloat.compare]
  | infinity s =>
    cases v with
    | infinity t => cases s <;> cases t <;> simp [UnpackedFloat.compare, compare]
    | _ => cases s <;> simp [UnpackedFloat.compare]
  | zero s =>
    cases v with
    | infinity t => cases t <;> simp [UnpackedFloat.compare]
    | finite t m e pos => cases t <;> simp [UnpackedFloat.compare]
    | _ => simp [UnpackedFloat.compare]
  | finite s m e pos =>
    cases v with
    | finite t n f more =>
      cases s <;> cases t <;> simp [UnpackedFloat.compare, and_comm]
    | infinity t => cases s <;> cases t <;> simp [UnpackedFloat.compare]
    | _ => cases s <;> simp [UnpackedFloat.compare]

theorem beq_iff : (x == y) = true ↔ x.toModel.unpack.compare y.toModel.unpack = some .eq := by
  show (x.toModel.unpack.compare y.toModel.unpack == some .eq) = true ↔ _
  exact beq_iff_eq

theorem lt_iff : x < y ↔ x.toModel.unpack.compare y.toModel.unpack = some .lt := by
  show (decide (UnpackedFloat.lt x.toModel.unpack y.toModel.unpack = true)) = true ↔ _
  rw [decide_eq_true_eq]
  exact beq_iff_eq

theorem isNaN_eq_false_iff : x.isNaN = false ↔ x.toModel.unpack ≠ .notANumber := by
  show x.toModel.unpack.isNaN = false ↔ _
  cases x.toModel.unpack <;> simp [UnpackedFloat.isNaN]

theorem beq_comm (x y : Float) : (x == y) = (y == x) := by
  rw [Bool.eq_iff_iff, beq_iff, beq_iff, compare_eq_some_eq, compare_eq_some_eq]
  grind

theorem beq_trans (one : (x == y) = true) (two : (y == z) = true) : (x == z) = true := by
  rw [beq_iff, compare_eq_some_eq] at *
  grind

theorem beq_self_iff : (x == x) = true ↔ x.isNaN = false := by
  rw [beq_iff, compare_eq_some_eq, isNaN_eq_false_iff]
  grind

/-- The place of a number among all numbers: its sign, and next to it its exponent and its mantissa. -/
def place : UnpackedFloat → ℤ ×ₗ ℤ ×ₗ ℤ
  | .notANumber | .zero _ => toLex (0, toLex (0, 0))
  | .infinity .positive => toLex (2, toLex (0, 0))
  | .infinity .negative => toLex (-2, toLex (0, 0))
  | .finite .positive m e _ => toLex (1, toLex (e, (m : Int)))
  | .finite .negative m e _ => toLex (-1, toLex (-e, -(m : Int)))

theorem compare_eq_place (one : u.isNaN = false) (two : v.isNaN = false) :
    u.compare v = some (compare (place u) (place v)) := by
  have upward : ∀ (s : ℤ) (e f m n : ℤ), compare (toLex (s, toLex (e, m))) (toLex (s, toLex (f, n))) =
      (compare e f).then (compare m n) := by
    intro s e f m n
    simp [Prod.Lex.compare_def, compareLex, compareOn]
  have downward : ∀ e f : ℤ, compare (-e) (-f) = (compare e f).swap := by
    intro e f
    rw [Int.compare_swap, ← cmp_eq_compare, ← cmp_eq_compare]
    exact StrictAnti.cmp_map_eq (fun _ _ => Int.neg_lt_neg) e f
  have widened : ∀ m n : Nat, compare (m : ℤ) (n : ℤ) = compare m n := by
    intro m n
    rw [← cmp_eq_compare, ← cmp_eq_compare]
    exact Nat.strictMono_cast.cmp_map_eq m n
  cases u with
  | notANumber => cases one
  | infinity s =>
    cases v with
    | notANumber => cases two
    | infinity t => cases s <;> cases t <;> rfl
    | zero t => cases s <;> rfl
    | finite t => cases s <;> cases t <;> rfl
  | zero s =>
    cases v with
    | notANumber => cases two
    | infinity t => cases t <;> rfl
    | zero t => rfl
    | finite t => cases t <;> rfl
  | finite s m e pos =>
    cases v with
    | notANumber => cases two
    | infinity t => cases s <;> cases t <;> rfl
    | zero t => cases s <;> rfl
    | finite t n f more =>
      cases s <;> cases t
      case negative.positive | positive.negative => rfl
      case negative.negative =>
        rw [place, place, upward, downward, downward, ← Ordering.swap_then, widened]
        rfl
      case positive.positive =>
        rw [place, place, upward, widened]
        rfl

theorem compare_of_isNaN (h : u.isNaN = true ∨ v.isNaN = true) : u.compare v = none := by
  rcases h with h | h
  · cases u <;> cases h
    rfl
  · cases v <;> cases h
    cases u <;> rfl

theorem compare_eq_some_lt :
    u.compare v = some .lt ↔ u.isNaN = false ∧ v.isNaN = false ∧ place u < place v := by
  by_cases none : u.isNaN = true ∨ v.isNaN = true
  · rw [compare_of_isNaN none]
    rcases none with none | none <;> simp [none]
  · rw [not_or, Bool.not_eq_true, Bool.not_eq_true] at none
    rw [compare_eq_place none.1 none.2, Option.some_inj, compare_lt_iff_lt]
    simp [none]

theorem compare_swap (u v : UnpackedFloat) : v.compare u = (u.compare v).map Ordering.swap := by
  by_cases none : u.isNaN = true ∨ v.isNaN = true
  · rw [compare_of_isNaN none, compare_of_isNaN none.symm]
    rfl
  · rw [not_or, Bool.not_eq_true, Bool.not_eq_true] at none
    rw [compare_eq_place none.1 none.2, compare_eq_place none.2 none.1]
    exact congrArg some Std.OrientedOrd.eq_swap

theorem exists_compare (one : u.isNaN = false) (two : v.isNaN = false) : ∃ o, u.compare v = some o :=
  ⟨_, compare_eq_place one two⟩

theorem compareFloat_eq (x y : Float) :
    compareFloat x y = x.toModel.unpack.compare y.toModel.unpack := by
  have above : y < x ↔ x.toModel.unpack.compare y.toModel.unpack = some .gt := by
    rw [lt_iff, compare_swap x.toModel.unpack]
    cases x.toModel.unpack.compare y.toModel.unpack with
    | none => simp
    | some o => cases o <;> simp
  unfold compareFloat
  simp only [lt_iff, beq_iff, above]
  cases x.toModel.unpack.compare y.toModel.unpack with
  | none => rfl
  | some o => cases o <;> rfl

/-! ## What is no number -/

theorem isNaN_unpack {spec : Format} {b : BitVec spec.numBits}
    (low : UnpackedFloat.unpackExponent b ≠ -1#_) : (UnpackedFloat.unpack spec b).isNaN = false := by
  unfold UnpackedFloat.unpack
  simp only [low, if_false]
  split
  · split <;> rfl
  · rfl

theorem isNaN_pack (number : u.isNaN = false) : (Float.Model.pack u).isNaN = false := by
  have infinite : ∀ s, (UnpackedFloat.unpack .binary64
      (UnpackedFloat.packedInfinity .binary64 s)).isNaN = false := by
    rintro (_ | _) <;> decide
  show (UnpackedFloat.unpack .binary64 (UnpackedFloat.pack .binary64 u)).isNaN = false
  fun_cases UnpackedFloat.pack .binary64 u with
  | case1 => cases number
  | case2 s => exact infinite s
  | case3 s => cases s <;> decide
  | case4 s m e pos biased high => exact infinite s
  | case5 s m e pos bits biased high normal =>
    refine isNaN_unpack ?_
    rw [UnpackedFloat.unpackExponent_packComponents]
    intro same
    have stored : biased % 2048 = 2047 := congrArg BitVec.toNat same
    have few : biased + 1 < 2048 := Nat.lt_of_not_le high
    omega
  | case6 s m e pos bits biased high subnormal =>
    refine isNaN_unpack ?_
    rw [UnpackedFloat.unpackExponent_packComponents]
    decide

theorem isNaN_roundWithAccuracy (spec : Format) (s : UnpackedFloat.Sign) (m : Nat) (e : Int)
    (a : UnpackedFloat.Accuracy) : (UnpackedFloat.roundWithAccuracy spec s m e a).isNaN = false := by
  unfold UnpackedFloat.roundWithAccuracy
  split
  simp only
  split <;> rfl

theorem isNaN_normalize (spec : Format) (m e : Int) (s : UnpackedFloat.Sign) :
    (UnpackedFloat.normalize spec m e s).isNaN = false := by
  unfold UnpackedFloat.normalize
  split
  · exact isNaN_roundWithAccuracy ..
  · rfl
  · exact isNaN_roundWithAccuracy ..

theorem isNaN_toFloat (n : UInt64) : n.toFloat.isNaN = false :=
  isNaN_pack (isNaN_normalize ..)

theorem isNaN_neg (number : x.isNaN = false) : (-x).isNaN = false := by
  refine isNaN_pack (?_ : (UnpackedFloat.neg x.toModel.unpack).isNaN = false)
  revert number
  show x.toModel.unpack.isNaN = false → _
  cases x.toModel.unpack <;> exact id

def isFactor : UnpackedFloat → Bool
  | .finite .. => true
  | _ => false

theorem isNaN_mul (spec : Format) (number : u.isNaN = false) (factor : isFactor v = true) :
    (UnpackedFloat.mul spec u v).isNaN = false := by
  cases v with
  | finite =>
    cases u with
    | notANumber => cases number
    | finite => exact isNaN_roundWithAccuracy ..
    | _ => rfl
  | _ => cases factor

theorem isNaN_div (spec : Format) (number : u.isNaN = false) (factor : isFactor v = true) :
    (UnpackedFloat.div spec u v).isNaN = false := by
  cases v with
  | finite =>
    cases u with
    | notANumber => cases number
    | finite => exact isNaN_roundWithAccuracy ..
    | _ => rfl
  | _ => cases factor

theorem isFactor_power (e : Fin Float.exactlyRepresentablePowersOfTen.size) :
    isFactor Float.exactlyRepresentablePowersOfTen[e].toModel.unpack = true := by
  revert e
  decide

theorem isNaN_model_ofScientific (spec : Format) (n : Nat) (e : Int) :
    (UnpackedFloat.ofScientific spec n e).isNaN = false := by
  unfold UnpackedFloat.ofScientific
  split
  · rfl
  · split
    · rfl
    · split
      · rfl
      · split
        · exact isNaN_mul spec rfl rfl
        · exact isNaN_div spec rfl rfl

theorem isNaN_ofScientific (n : Nat) (s : Bool) (e : Nat) :
    (Float.ofScientific n s e).isNaN = false := by
  unfold Float.ofScientific
  split
  · next small =>
    have known : e < Float.exactlyRepresentablePowersOfTen.size := Nat.lt_succ_of_le small.2
    cases s with
    | true => exact isNaN_pack (isNaN_div _ (isNaN_toFloat _) (isFactor_power ⟨e, known⟩))
    | false => exact isNaN_pack (isNaN_mul _ (isNaN_toFloat _) (isFactor_power ⟨e, known⟩))
  · exact isNaN_pack (isNaN_model_ofScientific ..)

theorem isNaN_nearest (n : Nat) (e : Int) : (Decimal.nearest n e).isNaN = false := by
  unfold Decimal.nearest
  extract_lets power
  split
  · decide
  · split
    · decide
    · split
      · decide
      · exact isNaN_ofScientific ..

theorem isNaN_nearestFloat (n : Int) : (Value.nearestFloat n).isNaN = false := by
  unfold Value.nearestFloat
  extract_lets magnitude
  have number : magnitude.isNaN = false := by
    unfold magnitude
    split
    · exact isNaN_toFloat _
    · exact isNaN_nearest ..
  split
  · exact isNaN_neg number
  · exact number

theorem isNaN_of_readUnsigned? {cs : List Char} (read : Decimal.readUnsigned? cs = some x) :
    x.isNaN = false := by
  unfold Decimal.readUnsigned? at read
  extract_lets whole at read
  split at read
  split at read
  · cases read
  · obtain ⟨e, -, rfl⟩ := Option.map_eq_some_iff.1 read
    exact isNaN_nearest ..

theorem isNaN_of_readNumber? {s : String} {n : Number} (read : readNumber? s = some n) :
    n.toFloat.isNaN = false := by
  unfold readNumber? at read
  extract_lets cs at read
  split at read
  · cases read
    exact isNaN_nearestFloat _
  · obtain ⟨x, decimal, rfl⟩ := Option.map_eq_some_iff.1 read
    unfold Decimal.readDecimal? at decimal
    split at decimal
    obtain ⟨y, unsigned, rfl⟩ := Option.map_eq_some_iff.1 decimal
    have number := isNaN_of_readUnsigned? unsigned
    show (if _ then -y else y).isNaN = false
    split
    · exact isNaN_neg number
    · exact number

end Stencil.Doubles
