import TradingStrands.Foundation.Decimal
import Mathlib.Algebra.Order.Field.Power
import Mathlib.Data.Int.Log
import Mathlib.Tactic.Linarith
import Mathlib.Tactic.NormNum
import Mathlib.Tactic.Positivity
import Mathlib.Tactic.Ring

/-!
Owns rounding: to an integer and to a number of significant digits, with ties to
the even one, and the arithmetic of a decimal context, which rounds every result.
A number that has no more digits than are kept is not changed, and a positive
number stays positive.

Does not own: the exponents beyond which a context has no results.
-/

namespace TradingStrands.Foundation

/-! ### Rounding to an integer -/

theorem floor_bounds {value : Decimal} (nonneg : 0 ≤ value) :
    (value.floor.toNat : Decimal) ≤ value ∧ value < value.floor.toNat + 1 := by
  have floor : value.floor = ⌊value⌋ := rfl
  have whole : ((⌊value⌋.toNat : Int) : Decimal) = ⌊value⌋ := by
    rw [Int.toNat_of_nonneg (Int.floor_nonneg.mpr nonneg)]
  rw [floor, ← Int.cast_natCast, whole]
  exact ⟨Int.floor_le value, Int.lt_floor_add_one value⟩

theorem roundHalfEven_le_of_le {value : Decimal} {bound : Nat} (nonneg : 0 ≤ value)
    (le : value ≤ bound) : roundHalfEven value ≤ bound := by
  obtain ⟨lower, upper⟩ := floor_bounds nonneg
  have below : value.floor.toNat ≤ bound := by exact_mod_cast lower.trans le
  rcases below.lt_or_eq with strict | same
  · unfold roundHalfEven
    dsimp only
    split_ifs <;> omega
  · rw [same] at lower
    have exact_ : value - bound = 0 := by linarith
    unfold roundHalfEven
    dsimp only
    rw [same, exact_, if_pos (by norm_num)]

theorem le_roundHalfEven_of_le {value : Decimal} {bound : Nat} (le : (bound : Decimal) ≤ value) :
    bound ≤ roundHalfEven value := by
  obtain ⟨_, upper⟩ := floor_bounds ((Nat.cast_nonneg bound).trans le)
  have above : bound < value.floor.toNat + 1 := by exact_mod_cast le.trans_lt upper
  unfold roundHalfEven
  dsimp only
  split_ifs <;> omega

/-- To an even number everything up to half above it is rounded down. -/
theorem roundHalfEven_le_iff_of_even {value : Decimal} {bound : Nat} (nonneg : 0 ≤ value)
    (even : bound % 2 = 0) : roundHalfEven value ≤ bound ↔ value ≤ bound + 1 / 2 := by
  obtain ⟨lower, upper⟩ := floor_bounds nonneg
  rcases lt_trichotomy value.floor.toNat bound with under | same | beyond
  · have small : value ≤ bound := by
      have next : (value.floor.toNat : Decimal) + 1 ≤ bound := by exact_mod_cast under
      linarith
    exact iff_of_true (roundHalfEven_le_of_le nonneg small) (by linarith)
  · unfold roundHalfEven
    dsimp only
    rw [same]
    split_ifs with small large
    · exact iff_of_true le_rfl (by linarith)
    · exact iff_of_false (by omega) (by linarith)
    · exact iff_of_true le_rfl (by linarith)
  · have large : ((bound + 1 : Nat) : Decimal) ≤ value := by
      have next : ((bound + 1 : Nat) : Decimal) ≤ value.floor.toNat := by exact_mod_cast beyond
      exact next.trans lower
    have rounded := le_roundHalfEven_of_le large
    push_cast at large
    exact iff_of_false (by omega) (by linarith)

theorem roundHalfEven_natCast (number : Nat) : roundHalfEven number = number :=
  le_antisymm (roundHalfEven_le_of_le (Nat.cast_nonneg number) le_rfl) (le_roundHalfEven_of_le le_rfl)

/-! ### Rounding to digits -/

/-- The place of the last of the significant digits of a value. -/
def lastPlace (digits : Nat) (value : Decimal) : Int := Int.log 10 |value| + 1 - digits

/-- The value with so many significant digits, ties to the even one. -/
def roundTo (digits : Nat) (value : Decimal) : Decimal :=
  let place := lastPlace digits value
  let kept : Decimal := roundHalfEven (|value| / 10 ^ place) * 10 ^ place
  if value < 0 then -kept else kept

/-- The value can be written with so many digits. -/
def HasDigits (digits : Nat) (value : Decimal) : Prop :=
  ∃ coefficient exponent : Int, coefficient.natAbs < 10 ^ digits ∧
    value = coefficient * (10 : Decimal) ^ exponent

/-- A value that is a whole number of its last places is not changed. -/
theorem roundTo_of_whole {digits count : Nat} {value : Decimal}
    (whole : |value| = count * 10 ^ lastPlace digits value) : roundTo digits value = value := by
  have place : (10 : Decimal) ^ lastPlace digits value ≠ 0 := by positivity
  unfold roundTo
  dsimp only
  rw [(div_eq_iff place).mpr whole, roundHalfEven_natCast, ← whole]
  split_ifs with negative
  · rw [abs_of_neg negative, neg_neg]
  · exact abs_of_nonneg (not_lt.mp negative)

theorem roundTo_zero (digits : Nat) : roundTo digits 0 = 0 := by
  refine @roundTo_of_whole digits 0 0 ?_
  rw [abs_zero, Nat.cast_zero, zero_mul]

theorem roundTo_pos {digits : Nat} (some : 0 < digits) {value : Decimal} (positive : 0 < value) :
    0 < roundTo digits value := by
  have place : (0 : Decimal) < 10 ^ lastPlace digits value := by positivity
  have power : (10 : Decimal) ^ lastPlace digits value ≤ |value| := by
    have log : ((10 : Nat) : Decimal) ^ Int.log 10 |value| ≤ |value| :=
      Int.zpow_log_le_self (by norm_num) (abs_pos.mpr positive.ne')
    refine le_trans (zpow_le_zpow_right₀ (by norm_num) ?_) log
    unfold lastPlace
    omega
  have kept : 1 ≤ roundHalfEven (|value| / 10 ^ lastPlace digits value) :=
    le_roundHalfEven_of_le (by rw [Nat.cast_one]; exact (one_le_div₀ place).mpr power)
  unfold roundTo
  dsimp only
  rw [if_neg positive.le.not_gt]
  exact mul_pos (Nat.cast_pos.mpr kept) place

/-- A value of so many digits has its last place no further than where they end. -/
theorem lastPlace_le {digits : Nat} {coefficient exponent : Int} (nonzero : coefficient ≠ 0)
    (bound : coefficient.natAbs < 10 ^ digits) :
    lastPlace digits (coefficient * (10 : Decimal) ^ exponent) ≤ exponent := by
  have power : (0 : Decimal) < 10 ^ exponent := by positivity
  have small : |(coefficient : Decimal)| < 10 ^ digits := by
    rw [← Int.cast_abs, Int.abs_eq_natAbs]
    exact_mod_cast bound
  have below : |(coefficient * 10 ^ exponent : Decimal)| <
      ((10 : Nat) : Decimal) ^ (digits + exponent) := by
    rw [abs_mul, abs_of_pos power, Nat.cast_ofNat, zpow_add₀ (by norm_num), zpow_natCast]
    exact mul_lt_mul_of_pos_right small power
  have log := (Int.lt_zpow_iff_log_lt (by norm_num)
    (abs_pos.mpr (mul_ne_zero (Int.cast_ne_zero.mpr nonzero) power.ne'))).mp below
  unfold lastPlace
  omega

/-- A value of so many digits is not changed. -/
theorem roundTo_eq_self {digits : Nat} {value : Decimal} (short : HasDigits digits value) :
    roundTo digits value = value := by
  obtain ⟨coefficient, exponent, bound, written⟩ := short
  rcases eq_or_ne coefficient 0 with rfl | nonzero
  · rw [written, Int.cast_zero, zero_mul, roundTo_zero]
  · have finer := @lastPlace_le digits coefficient exponent nonzero bound
    rw [← written] at finer
    obtain ⟨steps, split⟩ := Int.eq_ofNat_of_zero_le (Int.sub_nonneg.mpr finer)
    have sum : exponent = steps + lastPlace digits value := by omega
    refine @roundTo_of_whole digits (coefficient.natAbs * 10 ^ steps) value ?_
    calc |value| = |(coefficient : Decimal)| * 10 ^ exponent := by
          rw [written, abs_mul, abs_of_pos (by positivity : (0 : Decimal) < 10 ^ exponent)]
      _ = coefficient.natAbs * (10 ^ steps * 10 ^ lastPlace digits value) := by
          rw [← Int.cast_abs, Int.abs_eq_natAbs, Int.cast_natCast, ← zpow_natCast,
            ← zpow_add₀ (by norm_num), ← sum]
      _ = (coefficient.natAbs * 10 ^ steps : Nat) * 10 ^ lastPlace digits value := by
          push_cast
          ring

/-! ### A context -/

/-- The digits that the default context keeps. -/
def precision : Nat := 28

/-- The arithmetic of a decimal context: what every result is rounded to. -/
structure DecimalContext where
  round : Decimal → Decimal
  round_zero : round 0 = 0
  round_pos : ∀ {value : Decimal}, 0 < value → 0 < round value

namespace DecimalContext

/-- Nothing is rounded. -/
def exact : DecimalContext where
  round := id
  round_zero := rfl
  round_pos := id

/-- Results have at most so many digits. -/
def ofPrecision (digits : Nat) (some : 0 < digits) : DecimalContext where
  round := roundTo digits
  round_zero := roundTo_zero digits
  round_pos := roundTo_pos some

/-- The default context. -/
def default : DecimalContext := ofPrecision precision (by decide)

variable (context : DecimalContext)

def add (left right : Decimal) : Decimal := context.round (left + right)

def sub (left right : Decimal) : Decimal := context.round (left - right)

def mul (left right : Decimal) : Decimal := context.round (left * right)

/-- Division raises on a zero divisor. -/
def divide (numerator divisor : Decimal) : Except PyError Decimal :=
  (Foundation.divide numerator divisor).map context.round

/-- The quotient by a divisor that is not zero. -/
def quotient (numerator divisor : Decimal) : Decimal := context.round (numerator / divisor)

variable {context}

theorem round_eq_zero_iff {value : Decimal} (nonneg : 0 ≤ value) :
    context.round value = 0 ↔ value = 0 := by
  constructor
  · intro zero
    exact le_antisymm (not_lt.mp fun positive => (context.round_pos positive).ne' zero) nonneg
  · rintro rfl
    exact context.round_zero

end DecimalContext

example : DecimalContext.default.add 1 (1 / 10 ^ 28) = 1 := by decide +kernel

end TradingStrands.Foundation
