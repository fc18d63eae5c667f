import TradingStrands.Coordinator.Types
import TradingStrands.Ledger.Book
import Mathlib.Data.Finset.Erase
import Mathlib.Data.Finset.Insert
import Mathlib.Algebra.Order.Field.Basic

/-!
Owns the deterministic risk gate: its configuration, its halt flags and daily
loss counter, and `evaluate`. The limits that apply to buys only are named one
by one; each says when its check rejects, with the guard the check runs under,
so that `evaluate_buy_approved` can list exactly what an approved buy has passed.
-/

namespace TradingStrands

open TradingStrands.Foundation

/-- Configurable risk limits. -/
structure RiskConfig where
  maxPositionPct : Decimal := 20 / 100
  maxTotalExposurePct : Decimal := 80 / 100
  maxDrawdownPct : Decimal := 15 / 100
  dailyLossCapPct : Decimal := 5 / 100
deriving DecidableEq, Repr

structure RiskManager where
  config : RiskConfig := {}
  haltedBots : Finset BotId := ∅
  deskHalted : Bool := false
  dailyLoss : Decimal := 0
deriving DecidableEq

namespace RiskManager

def haltBot (manager : RiskManager) (botId : BotId) : RiskManager :=
  { manager with haltedBots := insert botId manager.haltedBots }

def unhaltBot (manager : RiskManager) (botId : BotId) : RiskManager :=
  { manager with haltedBots := manager.haltedBots.erase botId }

def haltDesk (manager : RiskManager) : RiskManager := { manager with deskHalted := true }

def unhaltDesk (manager : RiskManager) : RiskManager := { manager with deskHalted := false }

def recordDailyLoss (manager : RiskManager) (amount : Decimal) : RiskManager :=
  { manager with dailyLoss := manager.dailyLoss + amount }

def resetDailyLoss (manager : RiskManager) : RiskManager := { manager with dailyLoss := 0 }

def approve (intent : TradeIntent) : RiskDecision := ⟨.approved, intent, ""⟩

def reject (intent : TradeIntent) (reason : String) : RiskDecision := ⟨.rejected, intent, reason⟩

@[simp] theorem approved_approve (intent : TradeIntent) : (approve intent).approved = true := rfl

@[simp] theorem approved_reject (intent : TradeIntent) (reason : String) :
    (reject intent reason).approved = false := rfl

end RiskManager

/-- Open positions at market, those without a price at their cost basis. -/
def Ledger.currentExposure (ledger : Ledger) (marketPrices : PriceMap) : Decimal :=
  (ledger.openPositions.map fun position =>
    position.quantity * (marketPrices position.symbol).getD position.burdenedCostBasis).sum

namespace RiskManager

variable (manager : RiskManager) (intent : TradeIntent) (ledger : Ledger)
  (marketPrices : PriceMap)

/-! ### The checks that apply to buys only -/

/-- The drawdown check rejects. -/
def DrawdownExceeded : Prop := manager.config.maxDrawdownPct < ledger.drawdownPct

/-- The daily loss check rejects; it only runs on positive equity. -/
def DailyLossExceeded : Prop :=
  0 < ledger.equity ∧ manager.config.dailyLossCapPct < manager.dailyLoss / ledger.equity

/-- Value of the intent as a fraction of equity, one when there is no equity. -/
def positionPct (price : Decimal) : Decimal :=
  if 0 < ledger.equity then intent.quantity * price / ledger.equity else 1

/-- The position size check rejects; it only runs on a priced symbol. -/
def PositionExceeded : Prop :=
  match marketPrices intent.symbol with
  | none => False
  | some price => manager.config.maxPositionPct < positionPct intent ledger price

/-- Exposure after the intent; an unpriced intent adds nothing. -/
def newExposure : Decimal :=
  match marketPrices intent.symbol with
  | none => ledger.currentExposure marketPrices
  | some price => ledger.currentExposure marketPrices + intent.quantity * price

/-- The exposure check rejects; it only runs on positive equity. -/
def ExposureExceeded : Prop :=
  0 < ledger.equity ∧
    manager.config.maxTotalExposurePct < newExposure intent ledger marketPrices / ledger.equity

instance : Decidable (manager.DrawdownExceeded ledger) := by
  unfold DrawdownExceeded
  infer_instance

instance : Decidable (manager.DailyLossExceeded ledger) := by
  unfold DailyLossExceeded
  infer_instance

instance : Decidable (manager.PositionExceeded intent ledger marketPrices) :=
  match priced : marketPrices intent.symbol with
  | none => isFalse (by simp [PositionExceeded, priced])
  | some price =>
      decidable_of_iff (manager.config.maxPositionPct < positionPct intent ledger price)
        (by simp [PositionExceeded, priced])

instance : Decidable (manager.ExposureExceeded intent ledger marketPrices) := by
  unfold ExposureExceeded
  infer_instance

/-- Evaluate a trade intent against all risk rules. -/
def evaluate : RiskDecision :=
  if intent.action = .hold ∨ intent.action = .noop then
    approve intent
  -- Kill-switch checks first
  else if manager.deskHalted = true then
    reject intent "desk is halted"
  else if intent.botId ∈ manager.haltedBots then
    reject intent ("bot " ++ intent.botId ++ " is halted")
  -- Sells and closes are always allowed
  else if intent.action = .sell ∨ intent.action = .close then
    approve intent
  else if manager.DrawdownExceeded ledger then
    reject intent ("drawdown " ++ formatPercent ledger.drawdownPct ++ " exceeds limit " ++
      formatPercent manager.config.maxDrawdownPct)
  else if manager.DailyLossExceeded ledger then
    reject intent ("daily loss " ++ formatPercent (manager.dailyLoss / ledger.equity) ++
      " exceeds limit " ++ formatPercent manager.config.dailyLossCapPct)
  else if manager.PositionExceeded intent ledger marketPrices then
    reject intent ("position size " ++
      formatPercent (positionPct intent ledger ((marketPrices intent.symbol).getD 0)) ++
      " of equity exceeds limit " ++ formatPercent manager.config.maxPositionPct)
  else if manager.ExposureExceeded intent ledger marketPrices then
    reject intent ("total exposure " ++
      formatPercent (newExposure intent ledger marketPrices / ledger.equity) ++
      " exceeds limit " ++ formatPercent manager.config.maxTotalExposurePct)
  else
    approve intent

/-! ### What approval means -/

/-- The kill switch stops the intent's bot or the whole desk. -/
def Halts : Prop := manager.deskHalted = true ∨ intent.botId ∈ manager.haltedBots

instance : Decidable (manager.Halts intent) := by
  unfold Halts
  infer_instance

variable {manager intent ledger marketPrices}

/-- A halted bot or desk trades nothing. -/
theorem evaluate_halted (trades : intent.action ≠ .hold ∧ intent.action ≠ .noop)
    (halted : manager.Halts intent) :
    (manager.evaluate intent ledger marketPrices).approved = false := by
  unfold evaluate
  rw [if_neg (by simp [trades])]
  by_cases desk : manager.deskHalted = true
  · rw [if_pos desk, approved_reject]
  · rw [if_neg desk, if_pos (halted.resolve_left desk), approved_reject]

/-- Reducing a position is approved unless a kill switch is on. -/
theorem evaluate_reduce_approved (reduces : intent.action = .sell ∨ intent.action = .close) :
    (manager.evaluate intent ledger marketPrices).approved = true ↔ ¬ manager.Halts intent := by
  have trades : intent.action ≠ .hold ∧ intent.action ≠ .noop := by
    rcases reduces with action | action <;> simp [action]
  by_cases halted : manager.Halts intent
  · simp [evaluate_halted trades halted, halted]
  · unfold Halts at halted
    push Not at halted
    unfold evaluate Halts
    rw [if_neg (by simp [trades]), if_neg halted.1, if_neg halted.2, if_pos reduces]
    simpa using halted

/-- An approved buy has passed the kill switch and every limit. -/
theorem evaluate_buy_approved (buys : intent.action = .buy) :
    (manager.evaluate intent ledger marketPrices).approved = true ↔
      ¬ manager.Halts intent ∧ ¬ manager.DrawdownExceeded ledger ∧
        ¬ manager.DailyLossExceeded ledger ∧
        ¬ manager.PositionExceeded intent ledger marketPrices ∧
        ¬ manager.ExposureExceeded intent ledger marketPrices := by
  have trades : intent.action ≠ .hold ∧ intent.action ≠ .noop := by simp [buys]
  by_cases halted : manager.Halts intent
  · simp [evaluate_halted trades halted, halted]
  · have open_ := halted
    unfold Halts at open_
    push Not at open_
    unfold evaluate
    rw [if_neg (by simp [trades]), if_neg open_.1, if_neg open_.2, if_neg (by simp [buys])]
    split_ifs <;> simp [*]

/-- One of the gate's checks, under its own guard, rejects the buy. -/
def Stops (manager : RiskManager) (intent : TradeIntent) (ledger : Ledger)
    (marketPrices : PriceMap) : Prop :=
  manager.Halts intent ∨ manager.DrawdownExceeded ledger ∨ manager.DailyLossExceeded ledger ∨
    manager.PositionExceeded intent ledger marketPrices ∨
    manager.ExposureExceeded intent ledger marketPrices

theorem approved_iff_not_stops (buys : intent.action = .buy) :
    (manager.evaluate intent ledger marketPrices).approved = true ↔
      ¬ manager.Stops intent ledger marketPrices := by
  rw [evaluate_buy_approved buys]
  unfold Stops
  push Not
  exact Iff.rfl

end RiskManager

end TradingStrands
