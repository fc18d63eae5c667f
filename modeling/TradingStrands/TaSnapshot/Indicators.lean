import TradingStrands.Foundation.Decimal
import TradingStrands.Foundation.Smoothing

/-!
Owns the recursive indicators of a series of closes: the exponential average,
Wilder's relative strength index, and the convergence and divergence of two
exponential averages with its signal line. Each is computed as the program does,
a division that can fail included, and the averages are the smoothed ones.

Periods are natural numbers. Does not own: the simple average, the bands, and
the snapshot that bundles all of them.
-/

namespace TradingStrands.TaSnapshot

open TradingStrands.Foundation

/-! ### The exponential average -/

/-- The `for` loop over the closes after the seed. -/
def emaFrom (alpha : Decimal) (ema : Decimal) (closes : List Decimal) : Decimal :=
  closes.foldl (fun ema close => alpha * close + (1 - alpha) * ema) ema

def computeEma (closes : List Decimal) (period : Nat) : Except PyError (Option Decimal) :=
  if closes.length < period ∨ period = 0 then .ok none
  else do
    let alpha ← divide 2 ((period : Decimal) + 1)
    let ema ← divide (closes.take period).sum period
    return some (emaFrom alpha ema (closes.drop period))

/-- The weight of the newest close. -/
def alpha (period : Nat) : Decimal := 2 / ((period : Decimal) + 1)

theorem divide_alpha (period : Nat) : divide 2 ((period : Decimal) + 1) = .ok (alpha period) :=
  divide_of_ne_zero (by positivity)

theorem divide_period (value : Decimal) {period : Nat} (positive : 1 ≤ period) :
    divide value period = .ok (value / period) :=
  divide_of_ne_zero (Nat.cast_ne_zero.mpr (by omega))

theorem computeEma_eq {closes : List Decimal} {period : Nat} (positive : 1 ≤ period)
    (enough : period ≤ closes.length) :
    computeEma closes period = .ok (some (smoothed (alpha period) period closes)) := by
  unfold computeEma
  rw [if_neg (by omega), divide_alpha, divide_period _ positive]
  rfl

/-! ### The relative strength index -/

/-- `closes[i] - closes[i - 1]` for each `i` from one. -/
def diffs (closes : List Decimal) : List Decimal :=
  List.zipWith (fun close before => close - before) closes.tail closes

def gain (diff : Decimal) : Decimal := if 0 < diff then diff else 0

def loss (diff : Decimal) : Decimal := if diff < 0 then -diff else 0

/-- Wilder's smoothing over the later differences. -/
def wilder (period : Nat) : List Decimal → Decimal → Decimal →
    Except PyError (Decimal × Decimal)
  | [], avgGain, avgLoss => .ok (avgGain, avgLoss)
  | diff :: rest, avgGain, avgLoss => do
      let avgGain ← divide (avgGain * ((period : Decimal) - 1) + gain diff) period
      let avgLoss ← divide (avgLoss * ((period : Decimal) - 1) + loss diff) period
      wilder period rest avgGain avgLoss

/-- The smoothed gain and loss. -/
def averages (closes : List Decimal) (period : Nat) : Except PyError (Decimal × Decimal) := do
  let avgGain ← divide (((diffs closes).take period).map gain).sum period
  let avgLoss ← divide (((diffs closes).take period).map loss).sum period
  wilder period ((diffs closes).drop period) avgGain avgLoss

def computeRsiWilder (closes : List Decimal) (period : Nat) : Except PyError (Option Decimal) :=
  if closes.length < period + 1 ∨ period = 0 then .ok none
  else do
    let (avgGain, avgLoss) ← averages closes period
    if avgLoss = 0 ∧ avgGain = 0 then return some 50
    if avgLoss = 0 then return some 100
    if avgGain = 0 then return some 0
    let rs ← divide avgGain avgLoss
    let part ← divide 100 (1 + rs)
    return some (100 - part)

/-! ### Convergence and divergence -/

/-- One close of the walk that keeps both averages. -/
def macdStep (alphaFast alphaSlow : Decimal) (walk : Decimal × Decimal × List Decimal)
    (close : Decimal) : Decimal × Decimal × List Decimal :=
  let emaFast := alphaFast * close + (1 - alphaFast) * walk.1
  let emaSlow := alphaSlow * close + (1 - alphaSlow) * walk.2.1
  (emaFast, emaSlow, walk.2.2 ++ [emaFast - emaSlow])

/-- The series of differences. -/
def macdSeries (closes : List Decimal) (fast slow : Nat) : Except PyError (List Decimal) := do
  let alphaFast ← divide 2 ((fast : Decimal) + 1)
  let alphaSlow ← divide 2 ((slow : Decimal) + 1)
  let seedFast ← divide (closes.take fast).sum fast
  let seedSlow ← divide (closes.take slow).sum slow
  let emaFast := emaFrom alphaFast seedFast ((closes.take slow).drop fast)
  return ((closes.drop slow).foldl (macdStep alphaFast alphaSlow) (emaFast, seedSlow, [])).2.2

def computeMacd (closes : List Decimal) (fast slow signalPeriod : Nat) :
    Except PyError (Option (Decimal × Decimal × Decimal)) :=
  if closes.length < slow + signalPeriod then .ok none
  else do
    let series ← macdSeries closes fast slow
    if series.length < signalPeriod then return none
    let alphaSig ← divide 2 ((signalPeriod : Decimal) + 1)
    let seed ← divide (series.take signalPeriod).sum signalPeriod
    let sig := emaFrom alphaSig seed (series.drop signalPeriod)
    match series.getLast? with
    | none => .error (.external "list index out of range")
    | some macd => return some (macd, sig, macd - sig)

end TradingStrands.TaSnapshot
