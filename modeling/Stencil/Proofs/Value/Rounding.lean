import Stencil.Proofs.Value.Doubles

/-!
# Integers as doubles

An integer is cut to 53 bits and rounded by what is cut off (`round_eq`). Rounding keeps the order, so the
doubles next to two integers are in the order of the integers (`place_nearestFloat_le`), and integers of
at most 53 bits are their own doubles (`eq_of_nearestFloat_beq`).
-/

namespace Stencil.Doubles
open Float.Model UnpackedFloat

variable {m n : Nat} {e : ℤ} {s : Sign} {a b : ExtendedMantissa}

/-! ## Packing -/

theorem unpackSign_packComponents {exponent : BitVec 11} {mantissa : BitVec 52} :
    UnpackedFloat.Sign.ofBitVec (UnpackedFloat.unpackSign
      (UnpackedFloat.packComponents .binary64 s exponent mantissa)) = s := by
  simp only [UnpackedFloat.unpackSign, UnpackedFloat.packComponents, BitVec.extractLsb]
  rw [BitVec.extractLsb'_append_eq_of_le (by omega), BitVec.extractLsb'_append_eq_of_le (by omega)]
  cases s <;> rfl

theorem unpack_pack_normal (pos : 0 < m) (size : m.log2 = 52) (low : -1074 ≤ e) (high : e ≤ 971) :
    (Float.Model.pack (.finite s m e pos)).unpack = .finite s m e pos := by
  obtain ⟨least, most⟩ := (Nat.log2_eq_iff (Nat.ne_of_gt pos)).1 size
  have biased : (e + Format.exponentBias .binary64 +
      Format.mantissaBitsWithoutImplicit .binary64).toNat = (e + 1075).toNat := by
    show (e + 1023 + 52).toNat = _
    omega
  have stored : UnpackedFloat.pack .binary64 (.finite s m e pos) =
      UnpackedFloat.packComponents .binary64 s (BitVec.ofNat 11 (e + 1075).toNat) (BitVec.ofNat 52 m) := by
    unfold UnpackedFloat.pack
    simp only [biased, size]
    rw [if_neg (by show ¬2 ^ 11 ≤ _; omega)]
    rfl
  show UnpackedFloat.unpack .binary64 (UnpackedFloat.pack .binary64 (.finite s m e pos)) = _
  have exponent : (BitVec.ofNat 11 (e + 1075).toNat).toNat = (e + 1075).toNat :=
    Nat.mod_eq_of_lt (by omega)
  have finite : BitVec.ofNat 11 (e + 1075).toNat ≠ -1#11 := by
    intro same
    have : (e + 1075).toNat = 2047 := exponent.symm.trans (congrArg BitVec.toNat same)
    omega
  have normal : BitVec.ofNat 11 (e + 1075).toNat ≠ 0#11 := by
    intro same
    have : (e + 1075).toNat = 0 := exponent.symm.trans (congrArg BitVec.toNat same)
    omega
  have mantissa : (1#1 ++ BitVec.ofNat 52 m).toNat = m := by
    rw [BitVec.toNat_append, ← Nat.shiftLeft_add_eq_or_of_lt (BitVec.isLt _)]
    show 1 <<< 52 + m % 2 ^ 52 = m
    omega
  rw [stored, UnpackedFloat.unpack]
  simp only [UnpackedFloat.unpackExponent_packComponents, UnpackedFloat.unpackMantissa_packComponents,
    unpackSign_packComponents]
  rw [if_neg finite, if_neg normal]
  simp only [mantissa, exponent]
  congr 1
  show ((e + 1075).toNat : Int) - (1023 + 52) = e
  omega

/-! ## Residual bits -/

def weight (a : ExtendedMantissa) : Nat :=
  4 * a.mantissa + 2 * a.roundBit.toNat + a.stickyBit.toNat

theorem weight_shiftRightOne (a : ExtendedMantissa) :
    weight a.shiftRightOne = 2 * (weight a / 4) + min 1 (weight a % 4) := by
  obtain ⟨m, r, s⟩ := a
  have last : (m % 2 != 0).toNat = m % 2 := by
    rcases Nat.mod_two_eq_zero_or_one m with even | odd
    · rw [even]; rfl
    · rw [odd]; rfl
  simp only [weight, ExtendedMantissa.shiftRightOne, last]
  cases r <;> cases s <;>
    simp only [Bool.or_self, Bool.or_true, Bool.or_false, Bool.toNat_true, Bool.toNat_false] <;> omega

theorem roundedMantissa_le (le : weight a ≤ weight b) : a.roundedMantissa ≤ b.roundedMantissa := by
  obtain ⟨m, r, s⟩ := a
  obtain ⟨n, t, w⟩ := b
  cases r <;> cases s <;> cases t <;> cases w <;>
    simp only [weight, Bool.toNat_true, Bool.toNat_false, ExtendedMantissa.roundedMantissa,
      ExtendedMantissa.accuracy, Accuracy.roundToNearestEven] at le ⊢ <;> omega

theorem shiftRight_succ (a : ExtendedMantissa) (k : Nat) : a >>> (k + 1) = (a >>> k).shiftRightOne :=
  rfl

theorem weight_shiftRight_le (le : weight a ≤ weight b) (k : Nat) :
    weight (a >>> k) ≤ weight (b >>> k) := by
  induction k with
  | zero => exact le
  | succ k ih =>
    rw [shiftRight_succ, shiftRight_succ, weight_shiftRightOne, weight_shiftRightOne]
    omega

theorem mantissa_shiftRight (a : ExtendedMantissa) (k : Nat) : (a >>> k).mantissa = a.mantissa / 2 ^ k := by
  induction k with
  | zero => exact (Nat.div_one _).symm
  | succ k ih =>
    rw [shiftRight_succ, Nat.pow_succ, ← Nat.div_div_eq_div_mul, ← ih]
    rfl

theorem mantissa_le_rounded (a : ExtendedMantissa) :
    a.mantissa ≤ a.roundedMantissa ∧ a.roundedMantissa ≤ a.mantissa + 1 := by
  obtain ⟨m, r, s⟩ := a
  cases r <;> cases s <;> simp only [ExtendedMantissa.roundedMantissa,
      ExtendedMantissa.accuracy, Accuracy.roundToNearestEven] <;> omega

theorem log2_shiftLeft (pos : 0 < n) (k : Nat) : (n <<< k).log2 = n.log2 + k := by
  obtain ⟨least, most⟩ := (Nat.log2_eq_iff (Nat.ne_of_gt pos)).1 (rfl : n.log2 = n.log2)
  rw [Nat.shiftLeft_eq]
  refine (Nat.log2_eq_iff (Nat.ne_of_gt (Nat.mul_pos pos (Nat.two_pow_pos k)))).2 ⟨?_, ?_⟩
  · rw [Nat.pow_add]
    exact Nat.mul_le_mul_right _ least
  · rw [Nat.add_right_comm, Nat.pow_add]
    exact Nat.mul_lt_mul_of_pos_right most (Nat.two_pow_pos k)

def padded (n : Nat) : ExtendedMantissa :=
  ⟨n <<< (52 - n.log2), false, false⟩

def cut (n : Nat) : ExtendedMantissa :=
  padded n >>> (n.log2 - 52)

theorem cut_bounds (pos : 0 < n) :
    2 ^ 52 ≤ (cut n).roundedMantissa ∧ (cut n).roundedMantissa ≤ 2 ^ 53 := by
  have size : (n <<< (52 - n.log2)).log2 = 52 + (n.log2 - 52) := by
    rw [log2_shiftLeft pos]
    omega
  have whole : n <<< (52 - n.log2) ≠ 0 := by
    intro none
    rw [none, Nat.log2_zero] at size
    omega
  obtain ⟨least, most⟩ := (Nat.log2_eq_iff whole).1 size
  obtain ⟨low, high⟩ := mantissa_le_rounded (cut n)
  have mantissa : (cut n).mantissa = n <<< (52 - n.log2) / 2 ^ (n.log2 - 52) :=
    mantissa_shiftRight ..
  have full : 2 ^ 52 ≤ (cut n).mantissa := by
    rw [mantissa, Nat.le_div_iff_mul_le (Nat.two_pow_pos _), ← Nat.pow_add]
    exact least
  have few : (cut n).mantissa < 2 ^ 53 := by
    rw [mantissa, Nat.div_lt_iff_lt_mul (Nat.two_pow_pos _), ← Nat.pow_add, Nat.add_right_comm 52 1]
    exact most
  omega

/-- The exponent and the mantissa that a natural number is rounded to. A carry out of the 53 bits moves
into the exponent. -/
def rounded (n : Nat) : ℤ × ℕ :=
  if (cut n).roundedMantissa < 2 ^ 53 then (n.log2 - 52, (cut n).roundedMantissa)
  else (n.log2 - 51, 2 ^ 52)

theorem log2_rounded (pos : 0 < n) : (rounded n).2.log2 = 52 := by
  unfold rounded
  split
  · next few =>
    have least := (cut_bounds pos).1
    exact (Nat.log2_eq_iff (by omega)).2 ⟨least, few⟩
  · exact Nat.log2_two_pow

theorem rounded_exponent (n : Nat) :
    (n.log2 : ℤ) - 52 ≤ (rounded n).1 ∧ (rounded n).1 ≤ n.log2 - 51 := by
  unfold rounded
  split <;> constructor <;> dsimp only <;> omega

theorem shift_padded (pos : 0 < n) :
    shiftToTargetExponent .binary64 (padded n).mantissa (0 - (52 - n.log2 : ℕ)) .exact =
      (cut n, (n.log2 : ℤ) - 52) := by
  have target : Format.targetExponent .binary64
      (totalExponent (padded n).mantissa (0 - (52 - n.log2 : ℕ))) = n.log2 - 52 := by
    simp only [Format.targetExponent, totalExponent, Format.mantissaBits, Format.minExponent, padded,
      log2_shiftLeft pos]
    omega
  have amount : ((n.log2 : ℤ) - 52 - (0 - (52 - n.log2 : ℕ))).toNat = n.log2 - 52 := by omega
  unfold shiftToTargetExponent shiftToExponent
  simp only [target, amount]
  refine Prod.ext rfl ?_
  show (0 : ℤ) - (52 - n.log2 : ℕ) + (n.log2 - 52 : ℕ) = n.log2 - 52
  omega

theorem shift_none (size : m.log2 = 52) (low : -1074 ≤ e) :
    UnpackedFloat.shiftToTargetExponent .binary64 m e .exact = (⟨m, false, false⟩, e) := by
  have target : Format.targetExponent .binary64 (totalExponent m e) = e := by
    simp only [Format.targetExponent, totalExponent, Format.mantissaBits, Format.minExponent, size]
    omega
  unfold UnpackedFloat.shiftToTargetExponent UnpackedFloat.shiftToExponent
  simp only [target, Int.sub_self]
  exact congrArg (Prod.mk _) (Int.add_zero e)

theorem shift_carried {e : ℤ} (low : -1074 ≤ e) :
    shiftToTargetExponent .binary64 (2 ^ 53) e .exact = (⟨2 ^ 52, false, false⟩, e + 1) := by
  have target : Format.targetExponent .binary64 (totalExponent (2 ^ 53) e) = e + 1 := by
    simp only [Format.targetExponent, totalExponent, Format.mantissaBits, Format.minExponent,
      Nat.log2_two_pow]
    omega
  have amount : (e + 1 - e).toNat = 1 := by omega
  unfold shiftToTargetExponent shiftToExponent
  simp only [target, amount]
  rfl

theorem round_eq (s : Sign) (pos : 0 < n) : ∃ positive,
    UnpackedFloat.round .binary64 s n 0 = .finite s (rounded n).2 (rounded n).1 positive := by
  have target : Format.targetExponent .binary64 (totalExponent n 0) = (n.log2 : ℤ) - 52 := by
    simp only [Format.targetExponent, totalExponent, Format.mantissaBits, Format.minExponent]
    omega
  have amount : (0 - ((n.log2 : ℤ) - 52)).toNat = 52 - n.log2 := by omega
  have first : UnpackedFloat.round .binary64 s n 0 =
      roundWithAccuracy .binary64 s (padded n).mantissa (0 - (52 - n.log2 : ℕ)) .exact := by
    unfold UnpackedFloat.round
    simp only [target, decreaseExponent, amount]
    rfl
  obtain ⟨least, most⟩ := cut_bounds pos
  rw [first]
  unfold roundWithAccuracy
  simp only [shift_padded pos]
  by_cases few : (cut n).roundedMantissa < 2 ^ 53
  · have same : rounded n = ((n.log2 : ℤ) - 52, (cut n).roundedMantissa) := if_pos few
    have size : (cut n).roundedMantissa.log2 = 52 := (Nat.log2_eq_iff (by omega)).2 ⟨least, few⟩
    simp only [same, shift_none size (by omega : -1074 ≤ (n.log2 : ℤ) - 52)]
    exact ⟨by omega, dif_neg (by omega)⟩
  · have same : rounded n = ((n.log2 : ℤ) - 51, 2 ^ 52) := if_neg few
    have full : (cut n).roundedMantissa = 2 ^ 53 := by omega
    have next : (n.log2 : ℤ) - 52 + 1 = n.log2 - 51 := by omega
    simp only [same, full, next, shift_carried (by omega : -1074 ≤ (n.log2 : ℤ) - 52)]
    exact ⟨by decide, rfl⟩

/-! ## Rounding keeps the order -/

theorem cut_le (le : m ≤ n) (alike : m.log2 = n.log2) :
    (cut m).roundedMantissa ≤ (cut n).roundedMantissa := by
  refine roundedMantissa_le ?_
  unfold cut
  rw [alike]
  refine weight_shiftRight_le ?_ _
  simp only [weight, padded, alike, Nat.shiftLeft_eq]
  have wider := Nat.mul_le_mul_right (2 ^ (52 - n.log2)) le
  omega

theorem rounded_le (pos : 0 < m) (le : m ≤ n) :
    toLex (rounded m) ≤ toLex (rounded n) := by
  rw [Prod.Lex.toLex_le_toLex]
  have bits : m.log2 ≤ n.log2 := by
    refine (Nat.le_log2 (by omega)).2 ?_
    exact Nat.le_trans (Nat.log2_self_le (Nat.ne_of_gt pos)) le
  obtain ⟨low, high⟩ := cut_bounds (Nat.lt_of_lt_of_le pos le)
  rcases Nat.eq_or_lt_of_le bits with alike | more
  · have ordered := cut_le le alike
    unfold rounded
    rw [alike]
    split <;> split <;> dsimp only <;> omega
  · unfold rounded
    split <;> split <;> dsimp only <;> omega

/-! ## Integers as doubles -/

theorem unpack_toFloat (pos : 0 < n) (small : n < 2 ^ 64) : ∃ positive,
    n.toUInt64.toFloat.toModel.unpack =
      .finite .positive (rounded n).2 (rounded n).1 positive := by
  have held : n.toUInt64.toNat = n := Nat.mod_eq_of_lt small
  have whole : compare (n : ℤ) 0 = .gt := by
    rw [Int.compare_eq_gt]
    omega
  have converted : UnpackedFloat.ofUInt64 .binary64 n.toUInt64 =
      UnpackedFloat.round .binary64 .positive n 0 := by
    unfold UnpackedFloat.ofUInt64 UnpackedFloat.ofNat UnpackedFloat.ofInt UnpackedFloat.normalize
    rw [held, whole]
    rfl
  obtain ⟨positive, same⟩ := round_eq .positive pos
  obtain ⟨low, high⟩ := rounded_exponent n
  have width : n.log2 < 64 := (Nat.log2_lt (Nat.ne_of_gt pos)).2 small
  refine ⟨positive, ?_⟩
  show (Float.Model.pack (UnpackedFloat.ofUInt64 .binary64 n.toUInt64)).unpack = _
  rw [converted, same]
  exact unpack_pack_normal positive (log2_rounded pos) (by omega) (by omega)

theorem unpack_nearestFloat {n : ℤ} (nonzero : n ≠ 0) (small : n.natAbs < 2 ^ 64) : ∃ positive,
    (Value.nearestFloat n).toModel.unpack =
      .finite (if n < 0 then .negative else .positive) (rounded n.natAbs).2 (rounded n.natAbs).1
        positive := by
  have pos : 0 < n.natAbs := Int.natAbs_pos.2 nonzero
  obtain ⟨positive, same⟩ := unpack_toFloat pos small
  obtain ⟨low, high⟩ := rounded_exponent n.natAbs
  have width : n.natAbs.log2 < 64 := (Nat.log2_lt (Nat.ne_of_gt pos)).2 small
  refine ⟨positive, ?_⟩
  unfold Value.nearestFloat
  rw [if_pos (show n.natAbs < UInt64.size from small)]
  split
  · show (Float.Model.pack (UnpackedFloat.neg n.natAbs.toUInt64.toFloat.toModel.unpack)).unpack = _
    rw [same]
    exact unpack_pack_normal positive (log2_rounded pos) (by omega) (by omega)
  · exact same

theorem natAbs_toInt_lt (n : Int64) : n.toInt.natAbs < 2 ^ 64 := by
  have low := n.le_toInt
  have high := n.toInt_lt
  omega

theorem nearestFloat_beq_zero_iff {n : ℤ} (small : n.natAbs < 2 ^ 64) :
    (Value.nearestFloat n == 0) = true ↔ n = 0 := by
  constructor
  · intro zero
    refine Classical.byContradiction fun nonzero => ?_
    obtain ⟨positive, same⟩ := unpack_nearestFloat nonzero small
    rw [beq_iff, same, compare_eq_some_eq] at zero
    obtain ⟨-, equal | ⟨s, t, equal, -⟩⟩ := zero
    · cases equal
    · cases equal
  · rintro rfl
    rfl

def height (n : Nat) : ℤ ×ₗ ℤ ×ₗ ℤ :=
  if n = 0 then 0 else toLex (1, toLex ((rounded n).1, ((rounded n).2 : ℤ)))

theorem height_nonneg (n : Nat) : 0 ≤ height n := by
  unfold height
  split
  · exact le_refl 0
  · exact Prod.Lex.toLex_le_toLex.2 (.inl Int.one_pos)

theorem height_le (le : m ≤ n) : height m ≤ height n := by
  rcases Nat.eq_zero_or_pos m with rfl | pos
  · exact height_nonneg n
  · unfold height
    rw [if_neg (by omega), if_neg (by omega)]
    refine Prod.Lex.toLex_le_toLex.2 (.inr ⟨rfl, Prod.Lex.toLex_le_toLex.2 ?_⟩)
    have ordered := Prod.Lex.toLex_le_toLex.1 (rounded_le pos le)
    omega

theorem place_nearestFloat {n : ℤ} (small : n.natAbs < 2 ^ 64) :
    place (Value.nearestFloat n).toModel.unpack =
      if n < 0 then -height n.natAbs else height n.natAbs := by
  by_cases nonzero : n = 0
  · subst nonzero
    rfl
  · obtain ⟨positive, same⟩ := unpack_nearestFloat nonzero small
    have whole : n.natAbs ≠ 0 := Int.natAbs_ne_zero.2 nonzero
    rw [same, height, if_neg whole]
    split <;> rfl

/-- The nearest doubles of integers are in the order of the integers. -/
theorem place_nearestFloat_le {m n : ℤ} (few : m.natAbs < 2 ^ 64) (small : n.natAbs < 2 ^ 64)
    (le : m ≤ n) : place (Value.nearestFloat m).toModel.unpack ≤
      place (Value.nearestFloat n).toModel.unpack := by
  rw [place_nearestFloat few, place_nearestFloat small]
  split <;> split
  · exact neg_le_neg (height_le (by omega))
  · exact (neg_nonpos.2 (height_nonneg _)).trans (height_nonneg _)
  · omega
  · exact height_le (by omega)

/-! ## Integers of at most 53 bits -/

theorem rounded_exact (pos : 0 < n) (small : n ≤ 2 ^ 53) :
    (rounded n).2 * 2 ^ ((rounded n).1 + 52).toNat = n * 2 ^ 52 := by
  rcases Nat.lt_or_eq_of_le small with small | rfl
  · have width : n.log2 < 53 := (Nat.log2_lt (Nat.ne_of_gt pos)).2 small
    have whole : cut n = padded n := by
      rw [cut, show n.log2 - 52 = 0 by omega]
      rfl
    have kept : (cut n).roundedMantissa = n <<< (52 - n.log2) := by
      rw [whole]
      rfl
    have size : (n <<< (52 - n.log2)).log2 = 52 := by
      rw [log2_shiftLeft pos]
      omega
    have few : n <<< (52 - n.log2) < 2 ^ 53 := by
      rw [← Nat.log2_lt fun none => ?_, size]
      · decide
      · rw [none] at size
        cases size
    have power : ((n.log2 : ℤ) - 52 + 52).toNat = n.log2 := by omega
    simp only [rounded, kept, if_pos few, power]
    rw [Nat.shiftLeft_eq, Nat.mul_assoc, ← Nat.pow_add, Nat.sub_add_cancel (Nat.le_of_lt_succ width)]
  · decide

theorem eq_of_nearestFloat_beq {m n : ℤ} (few : m.natAbs ≤ 2 ^ 53) (small : n.natAbs ≤ 2 ^ 53)
    (same : (Value.nearestFloat m == Value.nearestFloat n) = true) : m = n := by
  by_cases none : m = 0
  · subst none
    rw [beq_comm] at same
    exact ((nearestFloat_beq_zero_iff (by omega)).1 same).symm
  by_cases nothing : n = 0
  · subst nothing
    exact (nearestFloat_beq_zero_iff (by omega)).1 same
  obtain ⟨positive, left⟩ := unpack_nearestFloat none (by omega)
  obtain ⟨more, right⟩ := unpack_nearestFloat nothing (by omega)
  rw [beq_iff, compare_eq_some_eq, left, right] at same
  obtain ⟨-, equal | ⟨s, t, equal, -⟩⟩ := same
  · obtain ⟨sign, mantissa, exponent⟩ := UnpackedFloat.finite.inj equal
    have magnitude : m.natAbs = n.natAbs := by
      have one := rounded_exact (Int.natAbs_pos.2 none) few
      have two := rounded_exact (Int.natAbs_pos.2 nothing) small
      rw [mantissa, exponent, two] at one
      omega
    have both : m < 0 ↔ n < 0 := by
      by_cases negative : m < 0 <;> by_cases below : n < 0 <;> simp [negative, below] at sign ⊢
    omega
  · cases equal

end Stencil.Doubles
