import TradingStrands.Foundation.Decimal

/-!
Owns the per-bot ledger: fee breakdowns, fills, positions and the balance
sheet, with `recordFill` as the only operation that books a trade.

An operation of the source that mutates its object and may raise is modelled by
the object afterwards together with the outcome, because a raising call can
leave a changed object behind: `recordFill` has appended to the order history
before it looks for the position to sell.
-/

namespace TradingStrands

open TradingStrands.Foundation

abbrev Symbol : Type := String
abbrev BotId : Type := String
abbrev OrgId : Type := String

/-- Current prices by symbol; a symbol may have no usable price. -/
abbrev PriceMap : Type := Symbol → Option Decimal

inductive Side
  | buy
  | sell
deriving DecidableEq, Repr

/-- Granular fee breakdown for a single fill. -/
structure FeeBreakdown where
  commission : Decimal := 0
  secFee : Decimal := 0
  tafFee : Decimal := 0
  finraFee : Decimal := 0
  optionsPerContract : Decimal := 0
  optionsExercise : Decimal := 0
  cryptoSpread : Decimal := 0
  cryptoNetwork : Decimal := 0
  other : Decimal := 0
deriving DecidableEq, Repr

def FeeBreakdown.total (fees : FeeBreakdown) : Decimal :=
  fees.commission + fees.secFee + fees.tafFee + fees.finraFee + fees.optionsPerContract +
    fees.optionsExercise + fees.cryptoSpread + fees.cryptoNetwork + fees.other

/-- A completed fill with its fees. -/
structure Fill where
  symbol : Symbol
  side : Side
  quantity : Decimal
  price : Decimal
  fees : FeeBreakdown := {}
deriving DecidableEq, Repr

namespace Fill

/-- Execution price times quantity, unsigned. -/
def grossValue (fill : Fill) : Decimal := fill.price * fill.quantity

/-- Total cost of a buy, or net proceeds of a sell, fees included. -/
def burdenedTotal (fill : Fill) : Decimal :=
  match fill.side with
  | .buy => fill.grossValue + fill.fees.total
  | .sell => fill.grossValue - fill.fees.total

def burdenedCostPerUnit (fill : Fill) : Except PyError Decimal :=
  divide fill.burdenedTotal fill.quantity

end Fill

/-- An open position with its fully burdened cost basis per unit. -/
structure Position where
  symbol : Symbol
  quantity : Decimal
  burdenedCostBasis : Decimal
deriving DecidableEq, Repr

namespace Position

def fromFill (fill : Fill) : Except PyError Position :=
  if fill.side ≠ .buy then
    .error (.valueError [.text "can only open a position from a BUY fill"])
  else
    match fill.burdenedCostPerUnit with
    | .error error => .error error
    | .ok basis => .ok ⟨fill.symbol, fill.quantity, basis⟩

def unrealizedPnl (position : Position) (marketPrice : Decimal) : Decimal :=
  (marketPrice - position.burdenedCostBasis) * position.quantity

end Position

/-- Per-bot balance sheet. -/
structure Ledger where
  startingCapital : Decimal
  realizedPnl : Decimal := 0
  highWaterMark : Decimal := 0
  openPositions : List Position := []
  orderHistory : List Fill := []
  feeLedger : List FeeBreakdown := []
deriving DecidableEq, Repr

namespace Ledger

/-- Run after construction and after parsing: a high-water mark of zero means
it was never set. -/
def modelPostInit (ledger : Ledger) : Ledger :=
  if ledger.highWaterMark = 0 then
    { ledger with highWaterMark := ledger.startingCapital }
  else ledger

/-- `Ledger(starting_capital=capital)`. -/
def ofCapital (capital : Decimal) : Ledger :=
  modelPostInit { startingCapital := capital }

/-- Equity based on closed positions only. -/
def equity (ledger : Ledger) : Decimal :=
  ledger.startingCapital + ledger.realizedPnl

/-- The unrealized profit over positions; a position without a price raises. -/
def unrealizedTotal (marketPrices : PriceMap) : List Position → Except PyError Decimal
  | [] => .ok 0
  | position :: rest =>
      match marketPrices position.symbol with
      | none => .error (.keyError position.symbol)
      | some price =>
          match unrealizedTotal marketPrices rest with
          | .error error => .error error
          | .ok total => .ok (position.unrealizedPnl price + total)

/-- Equity marked to market with current prices. -/
def equityMarked (ledger : Ledger) (marketPrices : PriceMap) : Except PyError Decimal :=
  match unrealizedTotal marketPrices ledger.openPositions with
  | .error error => .error error
  | .ok unrealized => .ok (ledger.equity + unrealized)

def drawdownFromHwm (ledger : Ledger) : Decimal :=
  ledger.highWaterMark - ledger.equity

/-- Drawdown as a fraction of the high-water mark. -/
def drawdownPct (ledger : Ledger) : Decimal :=
  if ledger.highWaterMark = 0 then 0 else ledger.drawdownFromHwm / ledger.highWaterMark

/-- The first position of a symbol. -/
def findPosition (ledger : Ledger) (symbol : Symbol) : Option Position :=
  ledger.openPositions.find? fun position => position.symbol = symbol

/-- Mutate the position object that `findPosition` returns. -/
def updatePosition (positions : List Position) (symbol : Symbol)
    (update : Position → Position) : List Position :=
  match positions with
  | [] => []
  | position :: rest =>
      if position.symbol = symbol then update position :: rest
      else position :: updatePosition rest symbol update

def handleBuy (ledger : Ledger) (fill : Fill) : Except PyError Ledger :=
  match ledger.findPosition fill.symbol with
  | none =>
      match Position.fromFill fill with
      | .error error => .error error
      | .ok opened => .ok { ledger with openPositions := ledger.openPositions ++ [opened] }
  | some existing =>
      -- Average in: weighted average of burdened cost basis
      let totalQty := existing.quantity + fill.quantity
      match fill.burdenedCostPerUnit with
      | .error error => .error error
      | .ok costPerUnit =>
          let totalCost :=
            existing.burdenedCostBasis * existing.quantity + costPerUnit * fill.quantity
          match divide totalCost totalQty with
          | .error error => .error error
          | .ok basis =>
              .ok { ledger with
                openPositions := updatePosition ledger.openPositions fill.symbol fun position =>
                  { position with burdenedCostBasis := basis, quantity := totalQty } }

def handleSell (ledger : Ledger) (fill : Fill) : Except PyError Ledger :=
  match ledger.findPosition fill.symbol with
  | none => .error (.valueError [.text (fill.symbol ++ ": no open position to sell")])
  | some position =>
      if position.quantity < fill.quantity then
        .error (.valueError [.text (fill.symbol ++ ": sell quantity "), .number fill.quantity,
          .text " exceeds held ", .number position.quantity])
      else
        let sellProceeds := fill.burdenedTotal
        let costOfSold := position.burdenedCostBasis * fill.quantity
        let remaining := position.quantity - fill.quantity
        .ok { ledger with
          realizedPnl := ledger.realizedPnl + (sellProceeds - costOfSold)
          openPositions :=
            if remaining = 0 then ledger.openPositions.erase position
            else updatePosition ledger.openPositions fill.symbol fun position =>
              { position with quantity := remaining } }

/-- The history and the fee ledger are extended before the fill is handled. -/
def appendHistory (ledger : Ledger) (fill : Fill) : Ledger :=
  { ledger with
    orderHistory := ledger.orderHistory ++ [fill]
    feeLedger := ledger.feeLedger ++ [fill.fees] }

def updateHighWaterMark (ledger : Ledger) : Ledger :=
  if ledger.highWaterMark < ledger.equity then
    { ledger with highWaterMark := ledger.equity }
  else ledger

/-- The branch on the side of the fill. -/
def handleFill (ledger : Ledger) (fill : Fill) : Except PyError Ledger :=
  match fill.side with
  | .buy => ledger.handleBuy fill
  | .sell => ledger.handleSell fill

/-- Record a fill: the ledger afterwards, and whether the call raised. -/
def recordFill (ledger : Ledger) (fill : Fill) : Ledger × Except PyError Unit :=
  match (ledger.appendHistory fill).handleFill fill with
  | .error error => (ledger.appendHistory fill, .error error)
  | .ok booked => (booked.updateHighWaterMark, .ok ())

end Ledger

end TradingStrands
