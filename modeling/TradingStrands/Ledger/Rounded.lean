import TradingStrands.Foundation.Rounding
import TradingStrands.Ledger.Models

/-!
Owns `recordFill` in a decimal context: every sum, difference, product and
quotient is rounded, comparisons are not. In the context that rounds nothing it
is the `recordFill` of the ledger (`recordFillIn_exact`), which the rest of the
program is modelled with.

A position that a fill opens takes its quantity as it is; sums of quantities are
results of the context.
-/

namespace TradingStrands

open TradingStrands.Foundation

variable (context : DecimalContext)

def FeeBreakdown.totalIn (fees : FeeBreakdown) : Decimal :=
  [fees.secFee, fees.tafFee, fees.finraFee, fees.optionsPerContract, fees.optionsExercise,
    fees.cryptoSpread, fees.cryptoNetwork, fees.other].foldl context.add fees.commission

namespace Fill

def grossValueIn (fill : Fill) : Decimal := context.mul fill.price fill.quantity

def burdenedTotalIn (fill : Fill) : Decimal :=
  match fill.side with
  | .buy => context.add (fill.grossValueIn context) (fill.fees.totalIn context)
  | .sell => context.sub (fill.grossValueIn context) (fill.fees.totalIn context)

def burdenedCostPerUnitIn (fill : Fill) : Except PyError Decimal :=
  context.divide (fill.burdenedTotalIn context) fill.quantity

end Fill

def Position.fromFillIn (fill : Fill) : Except PyError Position :=
  if fill.side ≠ .buy then
    .error (.valueError [.text "can only open a position from a BUY fill"])
  else
    match fill.burdenedCostPerUnitIn context with
    | .error error => .error error
    | .ok basis => .ok ⟨fill.symbol, fill.quantity, basis⟩

namespace Ledger

def equityIn (ledger : Ledger) : Decimal := context.add ledger.startingCapital ledger.realizedPnl

def handleBuyIn (ledger : Ledger) (fill : Fill) : Except PyError Ledger :=
  match ledger.findPosition fill.symbol with
  | none =>
      match Position.fromFillIn context fill with
      | .error error => .error error
      | .ok opened => .ok { ledger with openPositions := ledger.openPositions ++ [opened] }
  | some existing =>
      let totalQty := context.add existing.quantity fill.quantity
      match fill.burdenedCostPerUnitIn context with
      | .error error => .error error
      | .ok costPerUnit =>
          let totalCost := context.add
            (context.mul existing.burdenedCostBasis existing.quantity)
            (context.mul costPerUnit fill.quantity)
          match context.divide totalCost totalQty with
          | .error error => .error error
          | .ok basis =>
              .ok { ledger with
                openPositions := updatePosition ledger.openPositions fill.symbol fun position =>
                  { position with burdenedCostBasis := basis, quantity := totalQty } }

def handleSellIn (ledger : Ledger) (fill : Fill) : Except PyError Ledger :=
  match ledger.findPosition fill.symbol with
  | none => .error (.valueError [.text (fill.symbol ++ ": no open position to sell")])
  | some position =>
      if position.quantity < fill.quantity then
        .error (.valueError [.text (fill.symbol ++ ": sell quantity "), .number fill.quantity,
          .text " exceeds held ", .number position.quantity])
      else
        let sellProceeds := fill.burdenedTotalIn context
        let costOfSold := context.mul position.burdenedCostBasis fill.quantity
        let remaining := context.sub position.quantity fill.quantity
        .ok { ledger with
          realizedPnl := context.add ledger.realizedPnl (context.sub sellProceeds costOfSold)
          openPositions :=
            if remaining = 0 then ledger.openPositions.erase position
            else updatePosition ledger.openPositions fill.symbol fun position =>
              { position with quantity := remaining } }

def updateHighWaterMarkIn (ledger : Ledger) : Ledger :=
  if ledger.highWaterMark < ledger.equityIn context then
    { ledger with highWaterMark := ledger.equityIn context }
  else ledger

def handleFillIn (ledger : Ledger) (fill : Fill) : Except PyError Ledger :=
  match fill.side with
  | .buy => ledger.handleBuyIn context fill
  | .sell => ledger.handleSellIn context fill

/-- Record a fill: the ledger afterwards, and whether the call raised. -/
def recordFillIn (ledger : Ledger) (fill : Fill) : Ledger × Except PyError Unit :=
  match (ledger.appendHistory fill).handleFillIn context fill with
  | .error error => (ledger.appendHistory fill, .error error)
  | .ok booked => (booked.updateHighWaterMarkIn context, .ok ())

/-! ### Without rounding -/

theorem divide_exact (numerator divisor : Decimal) :
    DecimalContext.exact.divide numerator divisor = divide numerator divisor := by
  unfold DecimalContext.divide
  cases divide numerator divisor <;> rfl

theorem burdenedCostPerUnitIn_exact (fill : Fill) :
    fill.burdenedCostPerUnitIn .exact = fill.burdenedCostPerUnit :=
  divide_exact _ _

/-- The context that rounds nothing gives the exact ledger. -/
theorem recordFillIn_exact (ledger : Ledger) (fill : Fill) :
    ledger.recordFillIn .exact fill = ledger.recordFill fill := by
  have buys : (ledger.appendHistory fill).handleBuyIn .exact fill =
      (ledger.appendHistory fill).handleBuy fill := by
    unfold handleBuyIn handleBuy Position.fromFillIn Position.fromFill
    simp only [burdenedCostPerUnitIn_exact, divide_exact]
    rfl
  have handled : (ledger.appendHistory fill).handleFillIn .exact fill =
      (ledger.appendHistory fill).handleFill fill := by
    unfold handleFillIn handleFill
    rw [buys]
    rfl
  unfold recordFillIn recordFill
  rw [handled]
  rfl

end Ledger

end TradingStrands
