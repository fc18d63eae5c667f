import TradingStrands.Risk.Manager

/-!
Owns `evaluate` in a decimal context: the equity, the products, the running sum of
the exposure and the shares that are compared with the limits are rounded, the
comparisons are not. In the context that rounds nothing it is the `evaluate` of the
gate (`evaluateIn_exact`).
-/

namespace TradingStrands

open TradingStrands.Foundation

variable (context : DecimalContext)

namespace Ledger

def drawdownFromHwmIn (ledger : Ledger) : Decimal :=
  context.sub ledger.highWaterMark (ledger.equityIn context)

def drawdownPctIn (ledger : Ledger) : Decimal :=
  if ledger.highWaterMark = 0 then 0
  else context.quotient (ledger.drawdownFromHwmIn context) ledger.highWaterMark

def currentExposureIn (ledger : Ledger) (marketPrices : PriceMap) : Decimal :=
  (ledger.openPositions.map fun position => context.mul position.quantity
    ((marketPrices position.symbol).getD position.burdenedCostBasis)).foldl context.add 0

end Ledger

namespace RiskManager

variable (manager : RiskManager) (intent : TradeIntent) (ledger : Ledger)
  (marketPrices : PriceMap)

/-! ### The checks that apply to buys only -/

def DrawdownExceededIn : Prop := manager.config.maxDrawdownPct < ledger.drawdownPctIn context

/-- The daily loss as a share of the equity. -/
def dailyLossPctIn : Decimal := context.quotient manager.dailyLoss (ledger.equityIn context)

def DailyLossExceededIn : Prop :=
  0 < ledger.equityIn context ∧
    manager.config.dailyLossCapPct < manager.dailyLossPctIn context ledger

def positionPctIn (price : Decimal) : Decimal :=
  if 0 < ledger.equityIn context then
    context.quotient (context.mul intent.quantity price) (ledger.equityIn context)
  else 1

def PositionExceededIn : Prop :=
  ∃ price, marketPrices intent.symbol = some price ∧
    manager.config.maxPositionPct < positionPctIn context intent ledger price

def newExposureIn : Decimal :=
  match marketPrices intent.symbol with
  | none => ledger.currentExposureIn context marketPrices
  | some price =>
      context.add (ledger.currentExposureIn context marketPrices) (context.mul intent.quantity price)

/-- The exposure after the intent as a share of the equity. -/
def exposurePctIn : Decimal :=
  context.quotient (newExposureIn context intent ledger marketPrices) (ledger.equityIn context)

def ExposureExceededIn : Prop :=
  0 < ledger.equityIn context ∧
    manager.config.maxTotalExposurePct < exposurePctIn context intent ledger marketPrices

instance : Decidable (manager.DrawdownExceededIn context ledger) :=
  inferInstanceAs (Decidable (_ < _))

instance : Decidable (manager.DailyLossExceededIn context ledger) :=
  inferInstanceAs (Decidable (_ ∧ _))

instance : Decidable (manager.PositionExceededIn context intent ledger marketPrices) :=
  inferInstanceAs (Decidable (∃ price, marketPrices intent.symbol = some price ∧ _))

instance : Decidable (manager.ExposureExceededIn context intent ledger marketPrices) :=
  inferInstanceAs (Decidable (_ ∧ _))

/-- Evaluate a trade intent against all risk rules. -/
def evaluateIn : RiskDecision :=
  if intent.action = .hold ∨ intent.action = .noop then
    approve intent
  else if manager.deskHalted = true then
    reject intent "desk is halted"
  else if intent.botId ∈ manager.haltedBots then
    reject intent ("bot " ++ intent.botId ++ " is halted")
  else if intent.action = .sell ∨ intent.action = .close then
    approve intent
  else if manager.DrawdownExceededIn context ledger then
    reject intent ("drawdown " ++ formatPercent (ledger.drawdownPctIn context) ++
      " exceeds limit " ++ formatPercent manager.config.maxDrawdownPct)
  else if manager.DailyLossExceededIn context ledger then
    reject intent ("daily loss " ++ formatPercent (manager.dailyLossPctIn context ledger) ++
      " exceeds limit " ++ formatPercent manager.config.dailyLossCapPct)
  else if manager.PositionExceededIn context intent ledger marketPrices then
    reject intent ("position size " ++
      formatPercent (positionPctIn context intent ledger ((marketPrices intent.symbol).getD 0)) ++
      " of equity exceeds limit " ++ formatPercent manager.config.maxPositionPct)
  else if manager.ExposureExceededIn context intent ledger marketPrices then
    reject intent ("total exposure " ++
      formatPercent (exposurePctIn context intent ledger marketPrices) ++
      " exceeds limit " ++ formatPercent manager.config.maxTotalExposurePct)
  else
    approve intent

/-- One of the gate's checks, under its own guard, rejects the buy. -/
def StopsIn : Prop :=
  manager.Halts intent ∨ manager.DrawdownExceededIn context ledger ∨
    manager.DailyLossExceededIn context ledger ∨
    manager.PositionExceededIn context intent ledger marketPrices ∨
    manager.ExposureExceededIn context intent ledger marketPrices

variable {context manager intent ledger marketPrices}

/-- An approved buy has passed the kill switch and every limit. -/
theorem evaluateIn_buy_approved (buys : intent.action = .buy) :
    (manager.evaluateIn context intent ledger marketPrices).approved = true ↔
      ¬ manager.StopsIn context intent ledger marketPrices := by
  have idle : ¬ (intent.action = .hold ∨ intent.action = .noop) := by simp [buys]
  have reduces : ¬ (intent.action = .sell ∨ intent.action = .close) := by simp [buys]
  unfold evaluateIn StopsIn Halts
  rw [if_neg idle]
  split_ifs <;> simp_all

/-! ### Without rounding -/

theorem currentExposureIn_exact (ledger : Ledger) (marketPrices : PriceMap) :
    ledger.currentExposureIn .exact marketPrices = ledger.currentExposure marketPrices :=
  List.sum_eq_foldl.symm

theorem newExposureIn_exact (intent : TradeIntent) (ledger : Ledger) (marketPrices : PriceMap) :
    newExposureIn .exact intent ledger marketPrices = newExposure intent ledger marketPrices := by
  unfold newExposureIn newExposure
  rw [currentExposureIn_exact]
  rfl

theorem positionExceededIn_exact : manager.PositionExceededIn .exact intent ledger marketPrices ↔
    manager.PositionExceeded intent ledger marketPrices := by
  unfold PositionExceededIn PositionExceeded
  cases marketPrices intent.symbol with
  | none => simp
  | some price =>
      simp only [Option.some.injEq, exists_eq_left']
      exact Iff.rfl

theorem exposureExceededIn_exact : manager.ExposureExceededIn .exact intent ledger marketPrices ↔
    manager.ExposureExceeded intent ledger marketPrices := by
  unfold ExposureExceededIn ExposureExceeded exposurePctIn
  rw [newExposureIn_exact]
  exact Iff.rfl

/-- The context that rounds nothing gives the exact gate. -/
theorem evaluateIn_exact (manager : RiskManager) (intent : TradeIntent) (ledger : Ledger)
    (marketPrices : PriceMap) :
    manager.evaluateIn .exact intent ledger marketPrices =
      manager.evaluate intent ledger marketPrices := by
  have exposure : exposurePctIn .exact intent ledger marketPrices =
      newExposure intent ledger marketPrices / ledger.equity := by
    unfold exposurePctIn
    rw [newExposureIn_exact]
    rfl
  unfold evaluateIn evaluate
  simp only [positionExceededIn_exact, exposureExceededIn_exact, exposure]
  rfl

end RiskManager

end TradingStrands
