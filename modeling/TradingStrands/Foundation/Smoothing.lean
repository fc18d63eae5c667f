import Mathlib.Algebra.Order.BigOperators.Group.List
import Mathlib.Algebra.Order.Field.Basic
import Mathlib.Tactic.Linarith
import Mathlib.Tactic.Positivity

/-!
Owns the recursive average of a series: the mean of its first values, moved by a
constant part of the way towards each later one.
-/

namespace TradingStrands.Foundation

section Smoothing

variable {K : Type} [Field K]

/-- An average moved towards a value. -/
def blend (weight average value : K) : K := weight * value + (1 - weight) * average

/-- The mean of the first `period` values, moved towards each later one. -/
def smoothed (weight : K) (period : Nat) (values : List K) : K :=
  (values.drop period).foldl (blend weight) ((values.take period).sum / period)

/-- One more value moves the average once. -/
theorem smoothed_concat (weight : K) {period : Nat} {values : List K}
    (enough : period ≤ values.length) (value : K) :
    smoothed weight period (values ++ [value]) =
      blend weight (smoothed weight period values) value := by
  unfold smoothed
  rw [List.drop_append_of_le_length enough, List.take_append_of_le_length enough,
    List.foldl_append]
  rfl

/-- The average of the values up to one is that of the values before it, moved
towards it. -/
theorem smoothed_take_succ (weight : K) {period size : Nat} {values : List K}
    (enough : period ≤ size) (within : size < values.length) :
    smoothed weight period (values.take (size + 1)) =
      blend weight (smoothed weight period (values.take size)) values[size] := by
  have long : period ≤ (values.take size).length := by
    rw [List.length_take]
    omega
  rw [← List.take_concat_get' values size within, smoothed_concat weight long]

variable [LinearOrder K] [IsStrictOrderedRing K]

theorem blend_nonneg {weight average value : K} (nonneg : 0 ≤ weight) (part : weight ≤ 1)
    (fromNonneg : 0 ≤ average) (toNonneg : 0 ≤ value) : 0 ≤ blend weight average value := by
  have rest : 0 ≤ 1 - weight := sub_nonneg.mpr part
  show 0 ≤ weight * value + (1 - weight) * average
  positivity

theorem foldl_blend_nonneg {weight : K} (nonneg : 0 ≤ weight) (part : weight ≤ 1)
    {values : List K} (all : ∀ value ∈ values, 0 ≤ value) {average : K}
    (start : 0 ≤ average) : 0 ≤ values.foldl (blend weight) average := by
  induction values generalizing average with
  | nil => exact start
  | cons value rest inductionHypothesis =>
      have later : ∀ other ∈ rest, 0 ≤ other := fun other member =>
        all other (List.mem_cons_of_mem value member)
      exact inductionHypothesis later
        (blend_nonneg nonneg part start (all value List.mem_cons_self))

/-- An average of nonnegative values is nonnegative. -/
theorem smoothed_nonneg {weight : K} (nonneg : 0 ≤ weight) (part : weight ≤ 1) (period : Nat)
    {values : List K} (all : ∀ value ∈ values, 0 ≤ value) :
    0 ≤ smoothed weight period values := by
  have seed : 0 ≤ (values.take period).sum / period :=
    div_nonneg (List.sum_nonneg fun value member => all value (List.mem_of_mem_take member))
      (Nat.cast_nonneg period)
  exact foldl_blend_nonneg nonneg part
    (fun value member => all value (List.mem_of_mem_drop member)) seed

end Smoothing

end TradingStrands.Foundation
