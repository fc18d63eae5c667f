import Mathlib.Algebra.BigOperators.Group.List.Lemmas
import Mathlib.Algebra.Order.BigOperators.Group.List
import Mathlib.Algebra.Order.Field.Basic
import Mathlib.Algebra.Order.Ring.Unbundled.Basic
import Mathlib.Tactic.FieldSimp

/-!
Owns how far the values of a list are from their mean: the squared deviations
vanish together exactly where all values are equal. `Root` is the nonnegative
root as an operation on an ordered field, by its two laws.
-/

namespace TradingStrands.Foundation

section Deviation

variable {K : Type} [Field K]

/-- The sum of the squared distances from a center. -/
def squaredDeviations (center : K) (values : List K) : K :=
  (values.map fun value => (value - center) ^ 2).sum

def AllEqual {α : Type} (values : List α) : Prop :=
  ∀ left ∈ values, ∀ right ∈ values, left = right

/-- The nonnegative root. -/
structure Root (K : Type) [Field K] [LinearOrder K] where
  root : K → K
  root_nonneg : ∀ value, 0 ≤ root value
  root_mul_self : ∀ value, 0 ≤ value → root value * root value = value

variable [LinearOrder K]

theorem Root.root_zero (sqrt : Root K) : sqrt.root 0 = 0 :=
  mul_self_eq_zero.mp (sqrt.root_mul_self 0 le_rfl)

theorem Root.root_pos (sqrt : Root K) {value : K} (positive : 0 < value) : 0 < sqrt.root value := by
  have nonzero : sqrt.root value ≠ 0 := by
    intro zero
    have square := sqrt.root_mul_self value positive.le
    rw [zero, mul_zero] at square
    exact positive.ne square
  exact lt_of_le_of_ne (sqrt.root_nonneg value) (Ne.symm nonzero)

variable [IsStrictOrderedRing K]

theorem squaredDeviations_nonneg (center : K) (values : List K) :
    0 ≤ squaredDeviations center values := by
  refine List.sum_nonneg fun square member => ?_
  obtain ⟨value, _, rfl⟩ := List.mem_map.mp member
  exact sq_nonneg _

theorem squaredDeviations_eq_zero_iff {center : K} {values : List K} :
    squaredDeviations center values = 0 ↔ ∀ value ∈ values, value = center := by
  induction values with
  | nil => exact iff_of_true rfl nofun
  | cons head tail inductionHypothesis =>
      have parts : squaredDeviations center (head :: tail) =
          (head - center) ^ 2 + squaredDeviations center tail := by
        unfold squaredDeviations
        rw [List.map_cons, List.sum_cons]
      rw [parts, add_eq_zero_iff_of_nonneg (sq_nonneg _) (squaredDeviations_nonneg center tail),
        inductionHypothesis, List.forall_mem_cons, sq_eq_zero_iff, sub_eq_zero]

/-- Values that are all equal are equal to their mean. -/
theorem AllEqual.eq_mean {values : List K} (same : AllEqual values) {value : K}
    (member : value ∈ values) : value = values.sum / values.length := by
  have nonzero : (values.length : K) ≠ 0 := by
    have long : values.length ≠ 0 := (List.length_pos_of_mem member).ne'
    exact_mod_cast long
  rw [List.sum_eq_card_nsmul values value fun other inside => same other inside value member,
    nsmul_eq_mul, mul_div_cancel_left₀ value nonzero]

theorem squaredDeviations_mean_eq_zero_iff {values : List K} :
    squaredDeviations (values.sum / values.length) values = 0 ↔ AllEqual values := by
  rw [squaredDeviations_eq_zero_iff]
  constructor
  · intro each left leftMember right rightMember
    rw [each left leftMember, each right rightMember]
  · intro same value member
    exact same.eq_mean member

end Deviation

end TradingStrands.Foundation
