import Mathlib.Data.List.Iterate
import Stencil.Function.Builtin
import Stencil.Proofs.Value.Arithmetic

/-!
# Progressions

The function `range` makes the exact arithmetic progression from its first argument to its second one
(`range_progression`). Its loop steps with a sum that stops at the ends of the range of integers, and no
item is touched by that, since every item lies between the two arguments.
-/

namespace Stencil.Builtin

variable {first last step n : Int64} {k : Nat}

/-- The size of a step. The size of the least integer is no integer, and the greatest one stands for it. -/
def pace (step : Int64) : Nat :=
  if step = Int64.minValue then 2 ^ 63 - 1 else step.toInt.natAbs

theorem toInt_stride (step : Int64) : (stride step).toInt = pace step := by
  have low := step.le_toInt
  have high := step.toInt_lt
  unfold stride pace
  split
  · next least =>
    rw [least]
    rfl
  · next other =>
    have above : step.toInt ≠ -2 ^ 63 := fun same => other (Int64.toInt_inj.1 same)
    cases held : int64? step.toInt.natAbs with
    | some size => exact int64?_eq_some_iff.1 held
    | none =>
      have outside := int64?_eq_none_iff_outside.1 held
      omega

theorem pace_eq_zero_iff : pace step = 0 ↔ step = 0 := by
  unfold pace
  split
  · next least => simp [least]
  · rw [Int.natAbs_eq_zero]
    exact Int64.toInt_inj (y := 0)

theorem stride_eq_zero_iff : stride step = 0 ↔ step = 0 := by
  rw [← Int64.toInt_inj, toInt_stride, ← pace_eq_zero_iff]
  exact Int.natCast_eq_zero

/-! ## Unsigned integers -/

theorem toNat_toUInt64 (n : Int64) :
    (n.toUInt64.toNat : Int) = if n.toInt < 0 then n.toInt + 2 ^ 64 else n.toInt := by
  have bound := n.toUInt64.toNat_lt
  have cond : n.toInt =
      if 2 * n.toUInt64.toNat < 2 ^ 64 then (n.toUInt64.toNat : Int) else n.toUInt64.toNat - 2 ^ 64 :=
    BitVec.toInt_eq_toNat_cond n.toBitVec
  split at cond <;> split <;> omega

theorem toNat_distance (first last : Int64) :
    (distance first last).toNat = (last.toInt - first.toInt).natAbs := by
  have start := toNat_toUInt64 first
  have stop := toNat_toUInt64 last
  have := first.le_toInt
  have := first.toInt_lt
  have := last.le_toInt
  have := last.toInt_lt
  unfold distance
  split
  · next up =>
    rw [Int64.lt_iff_toInt_lt] at up
    rw [UInt64.toNat_sub]
    split at start <;> split at stop <;> omega
  · next down =>
    rw [Int64.lt_iff_toInt_lt] at down
    rw [UInt64.toNat_sub]
    split at start <;> split at stop <;> omega

theorem toNat_toUInt64_stride (step : Int64) : (stride step).toUInt64.toNat = pace step := by
  have same := toNat_toUInt64 (stride step)
  rw [toInt_stride] at same
  split at same <;> omega

/-! ## The loop -/

theorem toList_collect (rising : Bool) (stride : Int64) (rounds : Nat) (current : Int64)
    (items : Array Int64) : (collect rising stride rounds current items).toList =
      items.toList ++ List.iterate (advance rising stride) current rounds := by
  induction rounds generalizing current items with
  | zero => simp [collect]
  | succ rounds ih => simp [collect, ih]

theorem toInt_clampInt64 {m : Int} (low : -2 ^ 63 ≤ m) (high : m < 2 ^ 63) : (clampInt64 m).toInt = m := by
  have inside : max Int64.minValue.toInt (min m Int64.maxValue.toInt) = m := by
    rw [Int64.toInt_minValue, Int64.toInt_maxValue]
    omega
  rw [clampInt64, inside]
  exact Int64.toInt_ofInt_of_le low high

/-! ## The progression -/

def paces (first last step : Int64) : Nat :=
  (last.toInt - first.toInt).natAbs / pace step

def place (first last step : Int64) (k : Nat) : Int :=
  if first ≤ last then first.toInt + k * pace step else first.toInt - k * pace step

theorem place_between (nonzero : step ≠ 0) (before : k ≤ paces first last step) :
    min first.toInt last.toInt ≤ place first last step k ∧
      place first last step k ≤ max first.toInt last.toInt := by
  have positive : 0 < pace step := Nat.pos_of_ne_zero (mt pace_eq_zero_iff.1 nonzero)
  have reach : k * pace step ≤ (last.toInt - first.toInt).natAbs :=
    (Nat.le_div_iff_mul_le positive).1 before
  simp only [place, Int64.le_iff_toInt_le, ← Int.natCast_mul]
  split <;> omega

theorem place_last (nonzero : step ≠ 0) :
    (last.toInt - place first last step (paces first last step)).natAbs < pace step := by
  have positive : 0 < pace step := Nat.pos_of_ne_zero (mt pace_eq_zero_iff.1 nonzero)
  have rest := Nat.mod_lt (last.toInt - first.toInt).natAbs positive
  have whole := Nat.div_add_mod' (last.toInt - first.toInt).natAbs (pace step)
  simp only [place, paces, Int64.le_iff_toInt_le, ← Int.natCast_mul]
  split <;> omega

theorem toInt_iterate_advance (nonzero : step ≠ 0) (before : k ≤ paces first last step) :
    ((advance (decide (first ≤ last)) (stride step))^[k] first).toInt = place first last step k := by
  induction k with
  | zero => simp [place]
  | succ k ih =>
    have here := ih (Nat.le_of_succ_le before)
    obtain ⟨above, below⟩ := place_between nonzero before
    have low : -2 ^ 63 ≤ place first last step (k + 1) :=
      (le_min first.le_toInt last.le_toInt).trans above
    have high : place first last step (k + 1) < 2 ^ 63 :=
      below.trans_lt (max_lt first.toInt_lt last.toInt_lt)
    rw [Function.iterate_succ_apply', advance, here, toInt_stride]
    refine Eq.trans (congrArg (fun m => (clampInt64 m).toInt) ?_) (toInt_clampInt64 low high)
    simp only [place, decide_eq_true_eq, Nat.cast_add, Nat.cast_one, add_mul, one_mul]
    split <;> omega

/-- The integers from the first to the last one in exact steps, as many as there are between the two. -/
structure IsProgression (first last step : Int64) (items : List Int64) : Prop where
  size : items.length = paces first last step + 1
  item : ∀ {k : Nat} {n}, items[k]? = some n →
    n.toInt = if first ≤ last then first.toInt + k * pace step else first.toInt - k * pace step
  between : ∀ n ∈ items, min first.toInt last.toInt ≤ n.toInt ∧ n.toInt ≤ max first.toInt last.toInt
  stepped : ∀ {k : Nat} {n next}, items[k]? = some n → items[k + 1]? = some next →
    next = advance (decide (first ≤ last)) (stride step) n
  reached : ∃ n, items.getLast? = some n ∧ (last.toInt - n.toInt).natAbs < pace step

theorem isProgression_iterate (nonzero : step ≠ 0) : IsProgression first last step
    (List.iterate (advance (decide (first ≤ last)) (stride step)) first (paces first last step + 1)) := by
  have item {k : Nat} {n} (found : (List.iterate (advance (decide (first ≤ last)) (stride step)) first
      (paces first last step + 1))[k]? = some n) : k ≤ paces first last step ∧
        n = (advance (decide (first ≤ last)) (stride step))^[k] first := by
    obtain ⟨before, same⟩ := List.getElem?_eq_some_iff.1 found
    rw [List.length_iterate] at before
    exact ⟨Nat.lt_succ_iff.1 before, by rw [← same, List.getElem_iterate]⟩
  refine ⟨List.length_iterate .., fun found => ?_, fun n mem => ?_, fun found behind => ?_, ?_⟩
  · obtain ⟨before, rfl⟩ := item found
    exact toInt_iterate_advance nonzero before
  · obtain ⟨k, found⟩ := List.getElem?_of_mem mem
    obtain ⟨before, rfl⟩ := item found
    rw [toInt_iterate_advance nonzero before]
    exact place_between nonzero before
  · obtain ⟨-, rfl⟩ := item found
    obtain ⟨-, rfl⟩ := item behind
    exact Function.iterate_succ_apply' ..
  · refine ⟨(advance (decide (first ≤ last)) (stride step))^[paces first last step] first, ?_, ?_⟩
    · rw [List.getLast?_eq_getElem?, List.length_iterate, Nat.add_sub_cancel,
        List.getElem?_iterate _ _ _ _ (Nat.lt_succ_self _)]
    · rw [toInt_iterate_advance nonzero (le_refl _)]
      exact place_last nonzero

theorem progression_eq (nonzero : step ≠ 0) : progression first last step =
    if rangeLimit ≤ paces first last step then .error .rangeTooLong
    else .ok (collect (decide (first ≤ last)) (stride step) (paces first last step + 1) first #[]) := by
  have steps : (distance first last / (stride step).toUInt64).toNat = paces first last step := by
    rw [UInt64.toNat_div, toNat_distance, toNat_toUInt64_stride, paces]
  unfold progression
  dsimp only
  rw [if_neg (mt stride_eq_zero_iff.1 nonzero), steps]

theorem range_eq (first last : Int64) (step : Option Int64) :
    range (.int first :: .int last :: step.toList.map .int) =
      (progression first last (step.getD 1)).map fun items => .array (items.toList.map .int) := by
  have one (step : Int64) : between (.int first) (.int last) (.int step) =
      (progression first last step).map fun items => .array (items.toList.map .int) := by
    show (progression first last step >>= fun items => pure (Value.array (items.toList.map .int))) = _
    cases progression first last step <;> rfl
  cases step with
  | none => exact one 1
  | some step => exact one step

/-- The function refuses a step of zero and too many items, and else makes the exact progression. -/
theorem range_progression (first last : Int64) (step : Option Int64) :
    let outcome := range (.int first :: .int last :: step.toList.map .int)
    if step = some 0 then outcome = .error .zeroStep
    else if rangeLimit ≤ (last.toInt - first.toInt).natAbs / pace (step.getD 1) then
      outcome = .error .rangeTooLong
    else ∃ items : List Int64, outcome = .ok (.array (items.map .int)) ∧
      IsProgression first last (step.getD 1) items := by
  dsimp only
  rw [range_eq]
  split
  · next zero =>
    rw [zero]
    rfl
  have nonzero : step.getD 1 ≠ 0 := by
    cases step with
    | none => decide
    | some step => simpa using ‹¬some step = some 0›
  rw [progression_eq nonzero, ← paces]
  split
  · rfl
  · refine ⟨_, ?_, isProgression_iterate nonzero⟩
    rw [Except.map, toList_collect]
    rfl

example : range [.int Int64.minValue, .int Int64.maxValue, .int Int64.minValue] =
    .ok (.array [.int Int64.minValue, .int (-1), .int (Int64.maxValue - 1)]) := by
  rfl

end Stencil.Builtin
