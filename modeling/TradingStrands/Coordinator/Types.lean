import TradingStrands.Ledger.Models

/-!
Owns the records exchanged between bots, the risk manager, the coordinator and
a broker: trade intents, risk decisions, orders and their results. A broker
adapter itself is only a handle here; what it answers is an input of the
operations that call it.
-/

namespace TradingStrands

open TradingStrands.Foundation

/-- What a bot intends this tick. Hold and noop produce no order. -/
inductive IntentAction
  | buy
  | sell
  | close
  | hold
  | noop
deriving DecidableEq, Repr

structure TradeIntent where
  botId : BotId
  orgId : OrgId
  symbol : Symbol
  action : IntentAction
  quantity : Decimal
  rationale : String := ""
deriving DecidableEq, Repr

inductive RiskVerdict
  | approved
  | rejected
deriving DecidableEq, Repr

structure RiskDecision where
  verdict : RiskVerdict
  intent : TradeIntent
  reason : String := ""
deriving DecidableEq, Repr

def RiskDecision.approved (decision : RiskDecision) : Bool :=
  decision.verdict = .approved

/-- The trade side of an action. -/
def intentToSide (action : IntentAction) : Side :=
  match action with
  | .sell | .close => .sell
  | .buy | .hold | .noop => .buy

theorem intentToSide_of_reduces {action : IntentAction} (reduces : action = .sell ∨ action = .close) :
    intentToSide action = .sell := by
  rcases reduces with rfl | rfl <;> rfl

inductive OrderType
  | market
  | limit
deriving DecidableEq, Repr

inductive TimeInForce
  | day
  | gtc
  | ioc
deriving DecidableEq, Repr

/-- Canonical order submitted to a broker adapter. -/
structure OrderRequest where
  symbol : Symbol
  side : Side
  quantity : Decimal
  orderType : OrderType := .market
  limitPrice : Option Decimal := none
  timeInForce : TimeInForce := .day
deriving DecidableEq, Repr

inductive OrderStatus
  | pending
  | filled
  | partiallyFilled
  | rejected
  | cancelled
deriving DecidableEq, Repr

/-- What a broker adapter returns for a submitted order. -/
structure OrderResult where
  orderId : String
  status : OrderStatus
  filledQuantity : Decimal := 0
  filledPrice : Decimal := 0
  fees : FeeBreakdown := {}
  rejectReason : Option String := none
deriving DecidableEq, Repr

/-- A position as the broker reports it. -/
structure BrokerPosition where
  symbol : Symbol
  quantity : Decimal
  marketValue : Decimal
  currentPrice : Decimal
deriving DecidableEq, Repr

end TradingStrands
