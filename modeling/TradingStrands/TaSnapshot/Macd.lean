import TradingStrands.TaSnapshot.Indicators
import TradingStrands.Foundation.Reading

/-!
Owns the equality of the convergence and divergence as the program computes it,
in one walk that keeps two averages in step, with its definition by the
exponential averages of all prefixes. The invariant of the walk is that it holds
the averages of the prefix it has passed.
-/

namespace TradingStrands.TaSnapshot

open TradingStrands.Foundation

/-- The fast average of a series less the slow one. -/
def emaDifference (closes : List Decimal) (fast slow : Nat) :
    Except PyError (Option Decimal) := do
  let emaFast ← computeEma closes fast
  let emaSlow ← computeEma closes slow
  match emaFast, emaSlow with
  | some emaFast, some emaSlow => return some (emaFast - emaSlow)
  | _, _ => return none

/-- The prefixes that are longer than a size. -/
def prefixesFrom (closes : List Decimal) (size : Nat) : List (List Decimal) :=
  (List.range' (size + 1) (closes.length - size)).map closes.take

/-- The smoothed fast average less the smoothed slow one. -/
def gap (fast slow : Nat) (closes : List Decimal) : Decimal :=
  smoothed (alpha fast) fast closes - smoothed (alpha slow) slow closes

variable {closes : List Decimal} {fast slow signalPeriod : Nat}

theorem emaDifference_eq (positive : 1 ≤ fast) (ordered : fast ≤ slow)
    (enough : slow ≤ closes.length) :
    emaDifference closes fast slow = .ok (some (gap fast slow closes)) := by
  unfold emaDifference
  rw [computeEma_eq positive (by omega), computeEma_eq (by omega) enough]
  rfl

theorem emaDifference_prefixes (positive : 1 ≤ fast) (ordered : fast ≤ slow) :
    (prefixesFrom closes slow).mapM (fun start => emaDifference start fast slow) =
      .ok (((prefixesFrom closes slow).map (gap fast slow)).map some) := by
  rw [List.map_map]
  refine mapM_ok_of_forall fun start member => ?_
  obtain ⟨size, inside, rfl⟩ := List.mem_map.mp member
  rw [List.mem_range'_1] at inside
  refine emaDifference_eq positive ordered ?_
  rw [List.length_take]
  omega

/-- Where the walk is, once it has passed `size` closes. -/
def walkAt (closes : List Decimal) (fast slow size : Nat) : Decimal × Decimal × List Decimal :=
  (smoothed (alpha fast) fast (closes.take size), smoothed (alpha slow) slow (closes.take size),
    ((List.range' (slow + 1) (size - slow)).map closes.take).map (gap fast slow))

/-- One close moves both averages and adds their difference. -/
theorem macdStep_walkAt (ordered : fast ≤ slow) {size : Nat} (started : slow ≤ size)
    (within : size < closes.length) :
    macdStep (alpha fast) (alpha slow) (walkAt closes fast slow size) closes[size] =
      walkAt closes fast slow (size + 1) := by
  have fastMoves := smoothed_take_succ (alpha fast) (ordered.trans started) within
  have slowMoves := smoothed_take_succ (alpha slow) started within
  have longer : List.range' (slow + 1) (size + 1 - slow) =
      List.range' (slow + 1) (size - slow) ++ [size + 1] := by
    rw [show size + 1 - slow = size - slow + 1 by omega, List.range'_1_concat,
      show slow + 1 + (size - slow) = size + 1 by omega]
  unfold walkAt
  rw [longer, List.map_append, List.map_append, fastMoves, slowMoves]
  show _ = (_, _, _ ++ [gap fast slow (closes.take (size + 1))])
  unfold gap
  rw [fastMoves, slowMoves]
  rfl

/-- The walk keeps to its invariant up to any close. -/
theorem foldl_macdStep (ordered : fast ≤ slow) (passed : Nat)
    (within : slow + passed ≤ closes.length) :
    ((closes.take (slow + passed)).drop slow).foldl (macdStep (alpha fast) (alpha slow))
        (walkAt closes fast slow slow) =
      walkAt closes fast slow (slow + passed) := by
  induction passed with
  | zero =>
      rw [Nat.add_zero, List.drop_take_self]
      rfl
  | succ passed inductionHypothesis =>
      have inside : slow + passed < closes.length := by omega
      have long : slow ≤ (closes.take (slow + passed)).length := by
        rw [List.length_take]
        omega
      rw [show slow + (passed + 1) = slow + passed + 1 by omega,
        ← List.take_concat_get' closes (slow + passed) inside,
        List.drop_append_of_le_length long, List.foldl_append,
        inductionHypothesis (by omega)]
      exact macdStep_walkAt ordered (by omega) inside

/-- The fast average has caught up when the walk begins. -/
theorem walkAt_slow (ordered : fast ≤ slow) :
    walkAt closes fast slow slow =
      (emaFrom (alpha fast) ((closes.take fast).sum / fast) ((closes.take slow).drop fast),
        (closes.take slow).sum / slow, []) := by
  unfold walkAt smoothed
  rw [List.take_take, min_eq_left ordered, List.take_take, min_self, List.drop_take_self,
    Nat.sub_self]
  rfl

theorem macdSeries_eq (positive : 1 ≤ fast) (ordered : fast ≤ slow)
    (enough : slow ≤ closes.length) :
    macdSeries closes fast slow = .ok ((prefixesFrom closes slow).map (gap fast slow)) := by
  have slowPositive : 1 ≤ slow := positive.trans ordered
  have walked := @foldl_macdStep closes fast slow ordered (closes.length - slow) (by omega)
  rw [show slow + (closes.length - slow) = closes.length by omega, List.take_length,
    walkAt_slow ordered] at walked
  unfold macdSeries
  rw [divide_alpha, divide_alpha, divide_period _ positive,
    divide_period _ slowPositive]
  exact congrArg (fun walk => Except.ok walk.2.2) walked

/-- The last of the series is the difference of all closes. -/
theorem getLast?_prefixesFrom (longer : slow < closes.length) :
    ((prefixesFrom closes slow).map (gap fast slow)).getLast? = some (gap fast slow closes) := by
  unfold prefixesFrom
  rw [show closes.length - slow = closes.length - slow - 1 + 1 by omega, List.range'_1_concat,
    List.map_append, List.map_append, List.map_singleton, List.map_singleton,
    List.getLast?_concat, show slow + 1 + (closes.length - slow - 1) = closes.length by omega,
    List.take_length]

/-- The one walk computes what the definition says: the difference of the two
averages, and the average of the differences of all prefixes longer than `slow`. -/
theorem computeMacd_eq_definition (positive : 1 ≤ fast) (ordered : fast ≤ slow)
    (signalPositive : 1 ≤ signalPeriod) (enough : slow + signalPeriod ≤ closes.length) :
    ∃ macd signal series, emaDifference closes fast slow = .ok (some macd) ∧
      (prefixesFrom closes slow).mapM (fun start => emaDifference start fast slow) =
        .ok (series.map some) ∧
      computeEma series signalPeriod = .ok (some signal) ∧
      computeMacd closes fast slow signalPeriod = .ok (some (macd, signal, macd - signal)) := by
  have long : signalPeriod ≤ ((prefixesFrom closes slow).map (gap fast slow)).length := by
    unfold prefixesFrom
    rw [List.length_map, List.length_map, List.length_range']
    omega
  refine ⟨gap fast slow closes, _, _, emaDifference_eq positive ordered (by omega),
    emaDifference_prefixes positive ordered, computeEma_eq signalPositive long, ?_⟩
  have last := @getLast?_prefixesFrom closes fast slow (by omega)
  unfold computeMacd
  rw [if_neg (by omega), macdSeries_eq positive ordered (by omega)]
  generalize (prefixesFrom closes slow).map (gap fast slow) = series at long last ⊢
  show (if series.length < signalPeriod then _ else _) = _
  rw [if_neg (by omega), divide_alpha, divide_period _ signalPositive, last]
  rfl

theorem computeMacd_eq_definition_short :
    ∃ macd signal series, emaDifference [1, 2, 4, 8, 16] 1 2 = .ok (some macd) ∧
      (prefixesFrom [1, 2, 4, 8, 16] 2).mapM (fun start => emaDifference start 1 2) =
        .ok (series.map some) ∧
      computeEma series 2 = .ok (some signal) ∧
      computeMacd [1, 2, 4, 8, 16] 1 2 2 = .ok (some (macd, signal, macd - signal)) :=
  computeMacd_eq_definition (by decide) (by decide) (by decide) (by decide)

end TradingStrands.TaSnapshot
