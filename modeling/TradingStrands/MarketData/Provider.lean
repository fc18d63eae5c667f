import TradingStrands.Foundation.Dict
import TradingStrands.Foundation.Reading
import TradingStrands.Ledger.Models

/-!
Owns the price fetch of a batch of symbols: a symbol whose own price cannot be
had is left out, and every other symbol of the batch keeps its price. What the
broker answers for one symbol, a quote without a readable price included, is an
input.
-/

namespace TradingStrands.MarketDataProvider

open TradingStrands.Foundation

/-- Get current prices for multiple symbols. Symbol-level failures don't abort
the batch. -/
def getPrices (getPrice : Symbol → Except PyError Decimal) (symbols : List Symbol) :
    Dict Symbol Decimal :=
  Dict.empty.setAll (symbols.filterMap fun symbol =>
    match getPrice symbol with
    | .error _ => none
    | .ok price => some (symbol, price))

/-- The batch sets each symbol to its own price. -/
theorem getPrices_eq_setFound (getPrice : Symbol → Except PyError Decimal) (symbols : List Symbol) :
    getPrices getPrice symbols =
      Dict.empty.setFound (fun symbol => (getPrice symbol).toOption) symbols := by
  unfold getPrices Dict.setFound
  refine congrArg _ (List.filterMap_congr fun symbol _ => ?_)
  dsimp only
  cases getPrice symbol with
  | error error => rfl
  | ok price => rfl

/-- The batch holds exactly the requested symbols whose own price was had. -/
theorem get?_getPrices_eq_some_iff {getPrice : Symbol → Except PyError Decimal}
    {symbols : List Symbol} {symbol : Symbol} {price : Decimal} :
    (getPrices getPrice symbols).get? symbol = some price ↔
      symbol ∈ symbols ∧ getPrice symbol = .ok price := by
  rw [getPrices_eq_setFound, Dict.get?_setFound, Dict.get?_empty, Option.or_none]
  by_cases requested : symbol ∈ symbols
  · rw [if_pos requested, and_iff_right requested, toOption_eq_some_iff]
  · rw [if_neg requested]
    exact ⟨nofun, fun both => absurd both.1 requested⟩

/-- A failing quote takes its own symbol out of the batch and no other. -/
theorem get?_getPrices_of_error {getPrice : Symbol → Except PyError Decimal}
    {symbols : List Symbol} {symbol : Symbol} {error : PyError}
    (failed : getPrice symbol = .error error) :
    (getPrices getPrice symbols).get? symbol = none := by
  rw [Option.eq_none_iff_forall_not_mem]
  intro price found
  have priced := (get?_getPrices_eq_some_iff.mp found).2
  rw [failed] at priced
  cases priced

end TradingStrands.MarketDataProvider
