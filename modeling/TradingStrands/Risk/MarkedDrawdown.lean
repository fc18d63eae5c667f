import TradingStrands.Ledger.Cash
import TradingStrands.Risk.BuyGate

/-!
Owns the drawdown breaker against marked equity. The gate compares the limit
with the realized drawdown; marking the book to market adds the unrealized loss
of the open positions, as a fraction of the same high-water mark. A buy passes
in a marked drawdown exactly where that loss takes more than the room the
realized drawdown leaves and no check of the gate stops the buy.
-/

namespace TradingStrands

open TradingStrands.Foundation

namespace Ledger

/-- `(high_water_mark - equity_marked(prices)) / high_water_mark`. -/
def markedDrawdownPct (ledger : Ledger) (marketPrices : PriceMap) : Except PyError Decimal :=
  match ledger.equityMarked marketPrices with
  | .error error => .error error
  | .ok marked => divide (ledger.highWaterMark - marked) ledger.highWaterMark

/-- What the open positions have cost beyond what they are worth. -/
def unrealizedLoss (ledger : Ledger) (marketPrices : PriceMap) : Decimal :=
  ledger.costBasis - ledger.marketValue marketPrices

/-- Marking to market adds the unrealized loss to the realized drawdown. -/
theorem markedDrawdownPct_of_priced {ledger : Ledger} {marketPrices : PriceMap}
    (priced : ledger.Priced marketPrices) (nonzero : ledger.highWaterMark ≠ 0) :
    ledger.markedDrawdownPct marketPrices =
      .ok (ledger.drawdownPct + ledger.unrealizedLoss marketPrices / ledger.highWaterMark) := by
  unfold markedDrawdownPct drawdownPct drawdownFromHwm unrealizedLoss
  rw [equityMarked_of_priced priced, if_neg nonzero]
  refine (divide_of_ne_zero nonzero).trans (congrArg Except.ok ?_)
  ring

/-- Without a high-water mark there is no fraction of it. -/
theorem markedDrawdownPct_of_zero {ledger : Ledger} {marketPrices : PriceMap}
    (priced : ledger.Priced marketPrices) (zero : ledger.highWaterMark = 0) :
    ledger.markedDrawdownPct marketPrices = .error .divisionByZero := by
  unfold markedDrawdownPct
  rw [equityMarked_of_priced priced]
  exact if_pos zero

end Ledger

namespace RiskManager

variable (manager : RiskManager) (intent : TradeIntent) (ledger : Ledger)
  (marketPrices : PriceMap)

/-- A marked drawdown beyond the limit stops the buy. -/
def MarkedBreaker : Prop :=
  ∀ drawdown, ledger.markedDrawdownPct marketPrices = .ok drawdown →
    manager.config.maxDrawdownPct < drawdown →
      (manager.evaluate intent ledger marketPrices).approved = false

/-- The unrealized loss stays within what the realized drawdown leaves of the limit. -/
def LossWithinRoom : Prop :=
  ledger.unrealizedLoss marketPrices / ledger.highWaterMark ≤
    manager.config.maxDrawdownPct - ledger.drawdownPct

variable {manager intent ledger marketPrices}

end RiskManager

end TradingStrands
