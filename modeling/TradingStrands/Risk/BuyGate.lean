import TradingStrands.Risk.Rounded
import Mathlib.Data.List.Forall2

/-!
Owns what an approved buy guarantees. Each limit of the gate runs under its own
guard (the symbol is priced, equity is positive), so a buy that is not
`Enforceable` skips limits instead of failing them, and only the remaining
checks can still stop it. An open position without a market price counts at its
cost basis, so the exposure the gate compares is the exposure at market only
when every open position is priced, and then up to the rounding of the context.
-/

namespace TradingStrands.RiskManager

open TradingStrands.Foundation

variable (context : DecimalContext) (manager : RiskManager) (intent : TradeIntent)
  (ledger : Ledger) (marketPrices : PriceMap)

/-- `values` are the quantities of the open positions times their market prices. -/
def AtMarket (values : List Decimal) : Prop :=
  ledger.openPositions.Forall₂ (fun position value =>
    ∃ price, marketPrices position.symbol = some price ∧ value = position.quantity * price) values

/-- Approval implies a positive quantity, a positive price, positive equity and
an exposure at market within the limit. -/
def FailClosed : Prop :=
  (manager.evaluateIn context intent ledger marketPrices).approved = true →
    0 < intent.quantity ∧ 0 < ledger.equityIn context ∧
      ∃ price values, marketPrices intent.symbol = some price ∧ 0 < price ∧
        AtMarket ledger marketPrices values ∧
        values.sum + intent.quantity * price ≤
          manager.config.maxTotalExposurePct * ledger.equityIn context

/-- The inputs every limit of the gate is defined on. -/
def Enforceable : Prop :=
  0 < intent.quantity ∧ 0 < ledger.equityIn context ∧
    ∃ price, marketPrices intent.symbol = some price ∧ 0 < price

/-- Every open position has a market price. -/
def HeldPriced : Prop :=
  ∀ position ∈ ledger.openPositions, ∃ price, marketPrices position.symbol = some price

/-- The share of the equity that the context makes of the values of an exposure and one
value more: each value is rounded, each sum on the way, and the share. -/
def shareIn (values : List Decimal) (value equity : Decimal) : Decimal :=
  context.quotient
    (context.add ((values.map context.round).foldl context.add 0) (context.round value)) equity

/-- An exposure at market beyond the limit is still beyond it once its values, their sum
and its share of the equity are rounded. -/
def ExcessKept : Prop :=
  ∀ price values, marketPrices intent.symbol = some price → AtMarket ledger marketPrices values →
    manager.config.maxTotalExposurePct * ledger.equityIn context <
        values.sum + intent.quantity * price →
      manager.config.maxTotalExposurePct <
        shareIn context values (intent.quantity * price) (ledger.equityIn context)

variable {context manager intent ledger marketPrices}

/-! ### Exposure at market -/

/-- Priced open positions are at market, and their values are what the gate reads. -/
theorem atMarket_of_heldPriced (held : HeldPriced ledger marketPrices) :
    AtMarket ledger marketPrices (ledger.openPositions.map fun position =>
      position.quantity * (marketPrices position.symbol).getD position.burdenedCostBasis) := by
  unfold AtMarket
  rw [List.forall₂_map_right_iff, List.forall₂_same]
  intro position member
  obtain ⟨price, priced⟩ := held position member
  exact ⟨price, priced, by rw [priced, Option.getD_some]⟩

theorem heldPriced_of_atMarket {values : List Decimal}
    (valued : AtMarket ledger marketPrices values) : HeldPriced ledger marketPrices := by
  intro position member
  obtain ⟨place, bound, rfl⟩ := List.getElem_of_mem member
  obtain ⟨price, priced, -⟩ := valued.get bound (valued.length_eq ▸ bound)
  exact ⟨price, priced⟩

/-- There is one way to be at market. -/
theorem AtMarket.unique {values others : List Decimal} (valued : AtMarket ledger marketPrices values)
    (alsoValued : AtMarket ledger marketPrices others) : values = others := by
  refine Relator.RightUnique.forall₂ ?_ valued alsoValued
  rintro position value other ⟨price, priced, rfl⟩ ⟨another, same, rfl⟩
  rw [Option.some.inj (priced.symm.trans same)]

/-- On a priced book the share that the gate compares is that of the values at market. -/
theorem exposurePctIn_eq {price : Decimal} {values : List Decimal}
    (priced : marketPrices intent.symbol = some price)
    (valued : AtMarket ledger marketPrices values) :
    exposurePctIn context intent ledger marketPrices =
      shareIn context values (intent.quantity * price) (ledger.equityIn context) := by
  rw [valued.unique (atMarket_of_heldPriced (heldPriced_of_atMarket valued))]
  unfold exposurePctIn newExposureIn shareIn Ledger.currentExposureIn
  rw [priced, List.map_map]
  rfl

/-- Where nothing is rounded no excess is lost. -/
theorem excessKept_of_unrounded (equity : 0 < ledger.equityIn context)
    (unrounded : ∀ price values, marketPrices intent.symbol = some price →
      AtMarket ledger marketPrices values →
        shareIn context values (intent.quantity * price) (ledger.equityIn context) =
          (values.sum + intent.quantity * price) / ledger.equityIn context) :
    manager.ExcessKept context intent ledger marketPrices := by
  intro price values priced valued beyond
  rw [unrounded price values priced valued]
  exact (lt_div_iff₀ equity).mpr beyond

/-! ### When the gate is fail-closed -/

/-- The gate is fail-closed on a buy exactly when the buy is well formed, it and
every open position are priced and no excess is rounded away, or some check that
still runs rejects it. -/
theorem failClosed_iff (context : DecimalContext) (buys : intent.action = .buy) :
    manager.FailClosed context intent ledger marketPrices ↔
      (Enforceable context intent ledger marketPrices ∧ HeldPriced ledger marketPrices ∧
          manager.ExcessKept context intent ledger marketPrices) ∨
        manager.StopsIn context intent ledger marketPrices := by
  unfold FailClosed
  rw [evaluateIn_buy_approved buys]
  constructor
  · intro closed
    by_cases stops : manager.StopsIn context intent ledger marketPrices
    · exact Or.inr stops
    · obtain ⟨quantity, equity, price, values, priced, positive, valued, within⟩ := closed stops
      refine Or.inl ⟨⟨quantity, equity, price, priced, positive⟩, heldPriced_of_atMarket valued, ?_⟩
      intro other others alsoPriced alsoValued beyond
      rw [Option.some.inj (alsoPriced.symm.trans priced), alsoValued.unique valued] at beyond
      exact absurd within beyond.not_ge
  · rintro (⟨⟨quantity, equity, price, priced, positive⟩, held, kept⟩ | stops) passes
    · have valued := atMarket_of_heldPriced held
      refine ⟨quantity, equity, price, _, priced, positive, valued, ?_⟩
      by_contra beyond
      have exceeds := kept price _ priced valued (not_le.mp beyond)
      rw [← exposurePctIn_eq priced valued] at exceeds
      exact passes (Or.inr (Or.inr (Or.inr (Or.inr ⟨equity, exceeds⟩))))
    · exact absurd stops passes

/-- A priced buy of a second symbol, on a ledger that holds a first one. -/
theorem failClosed_iff_second_symbol :
    ({} : RiskManager).FailClosed .default ⟨"bot", "org", "AAPL", .buy, 1, ""⟩
        { Ledger.ofCapital 1000 with openPositions := [⟨"MSFT", 2, 90⟩] } (fun _ => some 100) ↔
      (Enforceable .default ⟨"bot", "org", "AAPL", .buy, 1, ""⟩
          { Ledger.ofCapital 1000 with openPositions := [⟨"MSFT", 2, 90⟩] } (fun _ => some 100) ∧
        HeldPriced { Ledger.ofCapital 1000 with openPositions := [⟨"MSFT", 2, 90⟩] }
          (fun _ => some 100) ∧
        ({} : RiskManager).ExcessKept .default ⟨"bot", "org", "AAPL", .buy, 1, ""⟩
          { Ledger.ofCapital 1000 with openPositions := [⟨"MSFT", 2, 90⟩] } (fun _ => some 100)) ∨
        ({} : RiskManager).StopsIn .default ⟨"bot", "org", "AAPL", .buy, 1, ""⟩
          { Ledger.ofCapital 1000 with openPositions := [⟨"MSFT", 2, 90⟩] } (fun _ => some 100) :=
  failClosed_iff .default rfl

/-- A buy of a million shares of a symbol without a usable quote is approved on
a ledger with a capital of one thousand. -/
theorem not_failClosed_unpriced :
    ¬ ({} : RiskManager).FailClosed .default ⟨"bot", "org", "AAPL", .buy, 1000000, ""⟩
      (Ledger.ofCapital 1000) (fun _ => none) := by
  intro closed
  obtain ⟨-, -, price, values, priced, -⟩ := closed (by decide +kernel)
  exact absurd priced (by simp)

/-- A priced buy passes beside an open position that has no quote. -/
example : (({} : RiskManager).evaluateIn .default ⟨"bot", "org", "AAPL", .buy, 1, ""⟩
    { Ledger.ofCapital 1000 with openPositions := [⟨"MSFT", 2, 90⟩] }
    (fun symbol => if symbol = "AAPL" then some 100 else none)).approved = true := by
  decide +kernel

/-- An excess in the thirty-first digit is rounded away. -/
example : (({} : RiskManager).evaluateIn .default ⟨"bot", "org", "AAPL", .buy, 1, ""⟩
    { Ledger.ofCapital 1000 with openPositions := [⟨"MSFT", 700, 1⟩] }
    (fun symbol => some (if symbol = "AAPL" then 100 + 1 / 10 ^ 28 else 1))).approved = true := by
  decide +kernel

end TradingStrands.RiskManager
