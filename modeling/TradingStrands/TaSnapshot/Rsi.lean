import TradingStrands.TaSnapshot.Indicators
import Mathlib.Data.Nat.Cast.Order.Field
import Mathlib.Tactic.FieldSimp
import Mathlib.Tactic.Ring

/-!
Owns what the relative strength index says: the share of the smoothed gain in
gain and loss together, as a percentage. It lies between zero and a hundred, is
at an end only where one of the two is all there is, and turns around when the
closes are reflected.
-/

namespace TradingStrands.TaSnapshot

open TradingStrands.Foundation

/-! ### The index of a gain and a loss -/

section Index

variable {K : Type} [Field K] [LinearOrder K] [IsStrictOrderedRing K]

/-- The share of the gain as a percentage, and half where neither is. -/
def strengthIndex (gain loss : K) : K :=
  if gain + loss = 0 then 50 else 100 * gain / (gain + loss)

variable {gain loss : K}

theorem strengthIndex_nonneg (gainNonneg : 0 ≤ gain) (lossNonneg : 0 ≤ loss) :
    0 ≤ strengthIndex gain loss := by
  unfold strengthIndex
  by_cases flat : gain + loss = 0
  · rw [if_pos flat]
    norm_num
  · rw [if_neg flat]
    positivity

/-- Gain and loss change places, and the index turns around. -/
theorem strengthIndex_swap (gain loss : K) :
    strengthIndex loss gain = 100 - strengthIndex gain loss := by
  unfold strengthIndex
  rw [add_comm loss gain]
  by_cases flat : gain + loss = 0
  · rw [if_pos flat, if_pos flat]
    norm_num
  · rw [if_neg flat, if_neg flat]
    field_simp
    ring

theorem strengthIndex_le (gainNonneg : 0 ≤ gain) (lossNonneg : 0 ≤ loss) :
    strengthIndex gain loss ≤ 100 := by
  have mirrored := strengthIndex_nonneg lossNonneg gainNonneg
  rw [strengthIndex_swap] at mirrored
  linarith

theorem strengthIndex_eq_zero_iff (gainNonneg : 0 ≤ gain) (lossNonneg : 0 ≤ loss) :
    strengthIndex gain loss = 0 ↔ gain = 0 ∧ 0 < loss := by
  unfold strengthIndex
  by_cases flat : gain + loss = 0
  · rw [if_pos flat]
    refine iff_of_false (by norm_num) ?_
    rintro ⟨_, positive⟩
    linarith
  · rw [if_neg flat, div_eq_zero_iff, or_iff_left flat]
    constructor
    · intro none
      have zero : gain = 0 := by linarith
      rw [zero, zero_add] at flat
      exact ⟨zero, lt_of_le_of_ne lossNonneg (Ne.symm flat)⟩
    · rintro ⟨zero, _⟩
      rw [zero, mul_zero]

theorem strengthIndex_eq_hundred_iff (gainNonneg : 0 ≤ gain) (lossNonneg : 0 ≤ loss) :
    strengthIndex gain loss = 100 ↔ loss = 0 ∧ 0 < gain := by
  rw [← strengthIndex_eq_zero_iff lossNonneg gainNonneg, strengthIndex_swap loss gain]
  exact sub_eq_self

end Index

/-! ### The smoothed gain and loss -/

theorem gain_nonneg (diff : Decimal) : 0 ≤ gain diff := by
  unfold gain
  split_ifs with up
  · exact up.le
  · exact le_rfl

/-- A difference the other way is a loss. -/
theorem gain_neg (diff : Decimal) : gain (-diff) = loss diff := by
  show (if 0 < -diff then -diff else 0) = if diff < 0 then -diff else 0
  simp only [neg_pos]

theorem loss_neg (diff : Decimal) : loss (-diff) = gain diff := by
  rw [← gain_neg, neg_neg]

theorem loss_nonneg (diff : Decimal) : 0 ≤ loss diff := by
  rw [← gain_neg]
  exact gain_nonneg (-diff)

/-- The weight of the newest difference. -/
def wilderWeight (period : Nat) : Decimal := 1 / period

theorem wilderWeight_nonneg (period : Nat) : 0 ≤ wilderWeight period := by
  unfold wilderWeight
  positivity

theorem wilderWeight_le_one (period : Nat) : wilderWeight period ≤ 1 := by
  unfold wilderWeight
  rw [one_div]
  exact Nat.cast_inv_le_one period

/-- One step of the smoothing is a move towards the newest value. -/
theorem divide_wilder {period : Nat} (positive : 1 ≤ period) (average value : Decimal) :
    divide (average * ((period : Decimal) - 1) + value) period =
      .ok (blend (wilderWeight period) average value) := by
  have nonzero : (period : Decimal) ≠ 0 := Nat.cast_ne_zero.mpr (by omega)
  rw [divide_period _ positive]
  unfold blend wilderWeight
  congr 1
  field_simp
  ring

theorem wilder_eq {period : Nat} (positive : 1 ≤ period) (rest : List Decimal) :
    ∀ avgGain avgLoss : Decimal, wilder period rest avgGain avgLoss =
      .ok ((rest.map gain).foldl (blend (wilderWeight period)) avgGain,
        (rest.map loss).foldl (blend (wilderWeight period)) avgLoss) := by
  induction rest with
  | nil =>
      intro avgGain avgLoss
      rfl
  | cons diff rest inductionHypothesis =>
      intro avgGain avgLoss
      unfold wilder
      rw [divide_wilder positive, divide_wilder positive]
      exact inductionHypothesis _ _

def avgGain (closes : List Decimal) (period : Nat) : Decimal :=
  smoothed (wilderWeight period) period ((diffs closes).map gain)

def avgLoss (closes : List Decimal) (period : Nat) : Decimal :=
  smoothed (wilderWeight period) period ((diffs closes).map loss)

theorem averages_eq (closes : List Decimal) {period : Nat} (positive : 1 ≤ period) :
    averages closes period = .ok (avgGain closes period, avgLoss closes period) := by
  unfold averages avgGain avgLoss smoothed
  rw [divide_period _ positive, divide_period _ positive, ← List.map_take, ← List.map_take,
    ← List.map_drop, ← List.map_drop]
  exact wilder_eq positive _ _ _

theorem avgGain_nonneg (closes : List Decimal) (period : Nat) : 0 ≤ avgGain closes period := by
  refine smoothed_nonneg (wilderWeight_nonneg period) (wilderWeight_le_one period) period ?_
  intro value member
  obtain ⟨diff, _, rfl⟩ := List.mem_map.mp member
  exact gain_nonneg diff

theorem avgLoss_nonneg (closes : List Decimal) (period : Nat) : 0 ≤ avgLoss closes period := by
  refine smoothed_nonneg (wilderWeight_nonneg period) (wilderWeight_le_one period) period ?_
  intro value member
  obtain ⟨diff, _, rfl⟩ := List.mem_map.mp member
  exact loss_nonneg diff

/-! ### Reflection -/

/-- The closes on the other side of a constant. -/
def reflect (constant : Decimal) (closes : List Decimal) : List Decimal :=
  closes.map fun close => constant - close

theorem diffs_reflect (constant : Decimal) (closes : List Decimal) :
    diffs (reflect constant closes) = (diffs closes).map Neg.neg := by
  unfold diffs reflect
  rw [← List.map_tail, List.zipWith_map, List.map_zipWith]
  congr 1
  funext close before
  ring

theorem avgGain_reflect (constant : Decimal) (closes : List Decimal) (period : Nat) :
    avgGain (reflect constant closes) period = avgLoss closes period := by
  unfold avgGain avgLoss
  rw [diffs_reflect, List.map_map]
  congr 2
  funext diff
  exact gain_neg diff

theorem avgLoss_reflect (constant : Decimal) (closes : List Decimal) (period : Nat) :
    avgLoss (reflect constant closes) period = avgGain closes period := by
  unfold avgGain avgLoss
  rw [diffs_reflect, List.map_map]
  congr 2
  funext diff
  exact loss_neg diff

/-! ### The index of a series -/

/-- The special cases of the computation are those of the index, and none of its
divisions is by zero. -/
theorem computeRsiWilder_eq {closes : List Decimal} {period : Nat} (positive : 1 ≤ period)
    (enough : period + 1 ≤ closes.length) :
    computeRsiWilder closes period =
      .ok (some (strengthIndex (avgGain closes period) (avgLoss closes period))) := by
  have gains := avgGain_nonneg closes period
  have losses := avgLoss_nonneg closes period
  unfold computeRsiWilder
  rw [if_neg (by omega), averages_eq closes positive]
  generalize avgGain closes period = up at gains ⊢
  generalize avgLoss closes period = down at losses ⊢
  show (if down = 0 ∧ up = 0 then Except.ok (some 50) else
    if down = 0 then Except.ok (some 100) else
    if up = 0 then Except.ok (some 0) else
    divide up down >>= fun rs => divide 100 (1 + rs) >>= fun part =>
      Except.ok (some (100 - part))) = Except.ok (some (strengthIndex up down))
  unfold strengthIndex
  by_cases noLoss : down = 0
  · by_cases noGain : up = 0
    · rw [if_pos ⟨noLoss, noGain⟩, if_pos (by rw [noLoss, noGain, add_zero])]
    · rw [if_neg fun both => noGain both.2, if_pos noLoss, noLoss, add_zero, if_neg noGain,
        mul_div_cancel_right₀ _ noGain]
  · have together : up + down ≠ 0 := by
      have positiveLoss : 0 < down := lt_of_le_of_ne losses (Ne.symm noLoss)
      positivity
    rw [if_neg fun both => noLoss both.1, if_neg noLoss, if_neg together]
    by_cases noGain : up = 0
    · rw [if_pos noGain, noGain, mul_zero, zero_div]
    · have ratio : 1 + up / down ≠ 0 := by positivity
      rw [if_neg noGain, divide_of_ne_zero noLoss]
      show (divide 100 (1 + up / down) >>= fun part => Except.ok (some (100 - part))) = _
      rw [divide_of_ne_zero ratio]
      show Except.ok (some (100 - 100 / (1 + up / down))) = _
      have shares : 100 - 100 / (1 + up / down) = 100 * up / (up + down) := by
        field_simp
        ring
      rw [shares]

/-- With enough closes the index is computed, lies between zero and a hundred,
is at an end only where there is no smoothed loss or no smoothed gain, and turns
around for the reflected closes. -/
theorem computeRsiWilder_bounded {closes : List Decimal} {period : Nat} (positive : 1 ≤ period)
    (enough : period + 1 ≤ closes.length) :
    averages closes period = .ok (avgGain closes period, avgLoss closes period) ∧
      ∃ rsi, computeRsiWilder closes period = .ok (some rsi) ∧ 0 ≤ rsi ∧ rsi ≤ 100 ∧
        (rsi = 100 ↔ avgLoss closes period = 0 ∧ 0 < avgGain closes period) ∧
        (rsi = 0 ↔ avgGain closes period = 0 ∧ 0 < avgLoss closes period) ∧
          ∀ constant : Decimal, computeRsiWilder (closes.map fun close => constant - close) period =
            .ok (some (100 - rsi)) := by
  have gains := avgGain_nonneg closes period
  have losses := avgLoss_nonneg closes period
  refine ⟨averages_eq closes positive, _, computeRsiWilder_eq positive enough,
    strengthIndex_nonneg gains losses, strengthIndex_le gains losses,
    strengthIndex_eq_hundred_iff gains losses, strengthIndex_eq_zero_iff gains losses, ?_⟩
  intro constant
  have enoughReflected : period + 1 ≤ (reflect constant closes).length := by
    unfold reflect
    rw [List.length_map]
    exact enough
  show computeRsiWilder (reflect constant closes) period = _
  rw [computeRsiWilder_eq positive enoughReflected, avgGain_reflect, avgLoss_reflect,
    strengthIndex_swap]

theorem computeRsiWilder_bounded_turned :
    averages [10, 11, 12, 9] 2 = .ok (avgGain [10, 11, 12, 9] 2, avgLoss [10, 11, 12, 9] 2) ∧
      ∃ rsi, computeRsiWilder [10, 11, 12, 9] 2 = .ok (some rsi) ∧ 0 ≤ rsi ∧ rsi ≤ 100 ∧
        (rsi = 100 ↔ avgLoss [10, 11, 12, 9] 2 = 0 ∧ 0 < avgGain [10, 11, 12, 9] 2) ∧
        (rsi = 0 ↔ avgGain [10, 11, 12, 9] 2 = 0 ∧ 0 < avgLoss [10, 11, 12, 9] 2) ∧
          ∀ constant : Decimal,
            computeRsiWilder ([10, 11, 12, 9].map fun close => constant - close) 2 =
              .ok (some (100 - rsi)) :=
  computeRsiWilder_bounded (by decide) (by decide)

end TradingStrands.TaSnapshot
