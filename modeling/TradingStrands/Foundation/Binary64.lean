import TradingStrands.Foundation.Rounding
import Mathlib.Tactic.NormNum
import Mathlib.Tactic.Positivity
import Mathlib.Tactic.Ring

/-!
Owns binary floats of 64 bits as the values they stand for, the rounding of an
exact number to the nearest of them with ties to the even one, and how a rounded
number compares with a float: where the float is even the exact number may be off
by half a place.

Does not own: arithmetic on floats, and the sign of a zero.
-/

namespace TradingStrands.Foundation

/-- A float by its value. -/
inductive Binary64
  | finite (value : Decimal)
  | infinite (negative : Bool)
  | nan
deriving DecidableEq, Repr

namespace Binary64

/-- The exponent of the last place of the floats around a magnitude. -/
def place (magnitude : Decimal) : Int := max (Int.log 2 magnitude - 52) (-1074)

/-- The magnitude rounded to its last place. -/
def nearest (magnitude : Decimal) : Decimal :=
  roundHalfEven (magnitude / 2 ^ place magnitude) * 2 ^ place magnitude

/-- What is rounded to this or more is no float. -/
def overflow : Decimal := 2 ^ 1024

/-- The float nearest to an exact number; what is too large for one is infinite. -/
def ofDecimal (value : Decimal) : Binary64 :=
  let magnitude := nearest |value|
  if overflow ≤ magnitude then .infinite (value < 0)
  else .finite (if value < 0 then -magnitude else magnitude)

/-- `float < bound`; not-a-number compares as false. -/
def below (bound : Decimal) : Binary64 → Bool
  | .finite value => value < bound
  | .infinite negative => negative
  | .nan => false

/-- `float > bound`. -/
def above (bound : Decimal) : Binary64 → Bool
  | .finite value => bound < value
  | .infinite negative => !negative
  | .nan => false

@[simp] theorem nearest_zero : nearest 0 = 0 := by
  unfold nearest
  rw [zero_div, show roundHalfEven 0 = 0 by decide +kernel, Nat.cast_zero, zero_mul]

theorem overflow_pos : 0 < overflow := pow_pos (by norm_num) 1024

theorem nearest_nonneg (magnitude : Decimal) : 0 ≤ nearest magnitude := by
  unfold nearest
  positivity

/-- A power of two is a whole number of smaller places. -/
theorem whole_places {exponent finer : Int} (le : finer ≤ exponent) :
    ∃ count : Nat, (2 : Decimal) ^ exponent = count * 2 ^ finer := by
  obtain ⟨steps, split⟩ := Int.eq_ofNat_of_zero_le (Int.sub_nonneg.mpr le)
  have sum : exponent = steps + finer := by omega
  refine ⟨2 ^ steps, ?_⟩
  rw [sum, zpow_add₀ (by norm_num), zpow_natCast]
  push_cast
  rfl

/-- Below a multiple of a place that is not finer than its own, a magnitude is
rounded to at most this multiple. -/
theorem nearest_le_of_le {magnitude : Decimal} {count : Nat} {exponent : Int}
    (nonneg : 0 ≤ magnitude) (coarse : place magnitude ≤ exponent)
    (le : magnitude ≤ count * 2 ^ exponent) : nearest magnitude ≤ count * 2 ^ exponent := by
  have positive : (0 : Decimal) < 2 ^ place magnitude := by positivity
  obtain ⟨each, whole⟩ := whole_places coarse
  have grid : (count : Decimal) * 2 ^ exponent = (count * each : Nat) * 2 ^ place magnitude := by
    rw [whole]
    push_cast
    ring
  unfold nearest
  rw [grid] at le ⊢
  have rounded := roundHalfEven_le_of_le (div_nonneg nonneg positive.le)
    ((div_le_iff₀ positive).mpr le)
  exact mul_le_mul_of_nonneg_right (by exact_mod_cast rounded) positive.le

theorem le_nearest_of_le {magnitude : Decimal} {exponent : Int}
    (coarse : place magnitude ≤ exponent) (le : 2 ^ exponent ≤ magnitude) :
    2 ^ exponent ≤ nearest magnitude := by
  have positive : (0 : Decimal) < 2 ^ place magnitude := by positivity
  obtain ⟨each, whole⟩ := whole_places coarse
  unfold nearest
  rw [whole] at le ⊢
  have rounded := le_roundHalfEven_of_le ((le_div_iff₀ positive).mpr le)
  exact mul_le_mul_of_nonneg_right (by exact_mod_cast rounded) positive.le

/-- A float: a coefficient of at most 53 bits, and of fewer only at the smallest
exponent. -/
structure IsFloat (coefficient : Nat) (exponent : Int) : Prop where
  bits : coefficient < 2 ^ 53
  least : -1074 ≤ exponent
  normal : 2 ^ 52 ≤ coefficient ∨ exponent = -1074

/-- What is rounded to at most an even float is at most half a place above it. -/
theorem nearest_le_iff_of_even {magnitude : Decimal} {coefficient : Nat} {exponent : Int}
    (float : IsFloat coefficient exponent) (even : coefficient % 2 = 0) (nonneg : 0 ≤ magnitude) :
    nearest magnitude ≤ coefficient * 2 ^ exponent ↔
      magnitude ≤ (coefficient + 1 / 2) * 2 ^ exponent := by
  have positive : (0 : Decimal) < 2 ^ exponent := by positivity
  rcases nonneg.lt_or_eq with present | absent
  swap
  · rw [← absent, nearest_zero]
    exact iff_of_true (by positivity) (by positivity)
  rcases lt_trichotomy (place magnitude) exponent with finer | same | coarser
  · -- The magnitude has fewer bits than the float's smallest normal neighbour.
    have normal : 2 ^ 52 ≤ coefficient := by
      have least : -1074 ≤ place magnitude := le_max_right _ _
      rcases float.normal with normal | smallest
      · exact normal
      · omega
    have binade : Int.log 2 magnitude + 1 ≤ exponent + 52 := by
      have last : Int.log 2 magnitude - 52 ≤ place magnitude := le_max_left _ _
      omega
    have small : magnitude ≤ coefficient * 2 ^ exponent := by
      have top : magnitude < 2 ^ (Int.log 2 magnitude + 1) :=
        mod_cast Int.lt_zpow_succ_log_self Nat.one_lt_two magnitude
      have raised : (2 : Decimal) ^ (Int.log 2 magnitude + 1) ≤ 2 ^ (exponent + 52) :=
        zpow_le_zpow_right₀ (by norm_num) binade
      have bits : ((2 ^ 52 : Nat) : Decimal) ≤ coefficient := by exact_mod_cast normal
      have split : (2 : Decimal) ^ (exponent + 52) = (2 ^ 52 : Nat) * 2 ^ exponent := by
        rw [zpow_add₀ (by norm_num), mul_comm]
        norm_num
      rw [split] at raised
      exact (top.le.trans raised).trans (mul_le_mul_of_nonneg_right bits positive.le)
    refine iff_of_true (nearest_le_of_le nonneg finer.le small) (small.trans ?_)
    exact mul_le_mul_of_nonneg_right (by linarith) positive.le
  · have scaled : 0 ≤ magnitude / 2 ^ exponent := div_nonneg nonneg positive.le
    unfold nearest
    rw [same, mul_le_mul_iff_left₀ positive, Nat.cast_le,
      roundHalfEven_le_iff_of_even scaled even, div_le_iff₀ positive]
  · have own : Int.log 2 magnitude = place magnitude + 52 := by
      have least := float.least
      unfold place at coarser ⊢
      omega
    have bottom : (2 : Decimal) ^ (place magnitude + 52) ≤ magnitude := by
      rw [← own]
      exact mod_cast Int.zpow_log_le_self Nat.one_lt_two present
    have rounded := le_nearest_of_le (by omega) bottom
    have raised : (2 : Decimal) ^ (exponent + 53) ≤ 2 ^ (place magnitude + 52) :=
      zpow_le_zpow_right₀ (by norm_num) (by omega)
    have split : (2 : Decimal) ^ (exponent + 53) = (2 ^ 53 : Nat) * 2 ^ exponent := by
      rw [zpow_add₀ (by norm_num), mul_comm]
      norm_num
    have bits : ((coefficient + 1 : Nat) : Decimal) ≤ (2 ^ 53 : Nat) := by exact_mod_cast float.bits
    have top : (coefficient + 1 / 2 : Decimal) * 2 ^ exponent < 2 ^ (exponent + 53) := by
      rw [split]
      refine mul_lt_mul_of_pos_right ?_ positive
      push_cast at bits ⊢
      linarith
    have apart : (coefficient : Decimal) * 2 ^ exponent ≤ (coefficient + 1 / 2) * 2 ^ exponent :=
      mul_le_mul_of_nonneg_right (by linarith) positive.le
    exact iff_of_false (by linarith) (by linarith)

/-! ### Comparing a rounded number -/

theorem below_zero_iff (value : Decimal) :
    (ofDecimal value).below 0 = true ↔ value < 0 ∧ 0 < nearest |value| := by
  have magnitude := nearest_nonneg |value|
  unfold ofDecimal
  dsimp only
  split_ifs with large negative
  · have present : 0 < nearest |value| := overflow_pos.trans_le large
    show decide (value < 0) = true ↔ _
    rw [decide_eq_true_eq, and_iff_left present]
  · show decide (-nearest |value| < 0) = true ↔ _
    rw [decide_eq_true_eq, neg_lt_zero, and_iff_right negative]
  · show decide (nearest |value| < 0) = true ↔ _
    rw [decide_eq_true_eq]
    exact iff_of_false magnitude.not_gt fun both => negative both.1

theorem above_iff (value : Decimal) {bound : Decimal} (nonneg : 0 ≤ bound)
    (finite : bound < overflow) :
    (ofDecimal value).above bound = true ↔ 0 ≤ value ∧ bound < nearest |value| := by
  have magnitude := nearest_nonneg |value|
  unfold ofDecimal
  dsimp only
  split_ifs with large negative
  · show (!decide (value < 0)) = true ↔ _
    rw [Bool.not_eq_true', decide_eq_false_iff_not, not_lt, and_iff_left (finite.trans_le large)]
  · show decide (bound < -nearest |value|) = true ↔ _
    rw [decide_eq_true_eq]
    exact iff_of_false (by linarith) fun both => negative.not_ge both.1
  · show decide (bound < nearest |value|) = true ↔ _
    rw [decide_eq_true_eq, and_iff_right (not_lt.mp negative)]

/-- A rounded number is negative if the number is below half the smallest float. -/
theorem below_zero_ofDecimal (value : Decimal) :
    (ofDecimal value).below 0 = true ↔ value < -(1 / 2 * 2 ^ (-1074 : Int)) := by
  have float : IsFloat 0 (-1074) := ⟨by norm_num, le_rfl, .inr rfl⟩
  have rounded := nearest_le_iff_of_even float rfl (abs_nonneg value)
  rw [Nat.cast_zero, zero_mul, zero_add] at rounded
  have half : (0 : Decimal) ≤ 1 / 2 * 2 ^ (-1074 : Int) := by positivity
  rw [below_zero_iff, ← not_le, ← not_le, rounded, ← not_le]
  rcases le_or_gt 0 value with nonneg | negative
  · exact iff_of_false (fun both => both.1 nonneg) fun beyond => beyond (by linarith)
  · rw [abs_of_neg negative, and_iff_right negative.not_ge, neg_le]

/-- A rounded number is above an even float if the number is more than half a
place above it. -/
theorem above_ofDecimal (value : Decimal) {coefficient : Nat} {exponent : Int}
    (float : IsFloat coefficient exponent) (even : coefficient % 2 = 0)
    (finite : coefficient * 2 ^ exponent < overflow) :
    (ofDecimal value).above (coefficient * 2 ^ exponent) = true ↔
      (coefficient + 1 / 2) * 2 ^ exponent < value := by
  have rounded := nearest_le_iff_of_even float even (abs_nonneg value)
  obtain ⟨nonneg, beyond⟩ : (0 : Decimal) ≤ coefficient * 2 ^ exponent ∧
      (0 : Decimal) ≤ (coefficient + 1 / 2) * 2 ^ exponent := by
    clear finite
    constructor <;> positivity
  rw [above_iff value nonneg finite, ← not_le, rounded, not_le]
  rcases le_or_gt 0 value with nonneg | negative
  · rw [abs_of_nonneg nonneg, and_iff_right nonneg]
  · exact iff_of_false (fun both => negative.not_ge both.1) (negative.le.trans beyond).not_gt

end Binary64

end TradingStrands.Foundation
