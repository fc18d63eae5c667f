import TradingStrands.Ledger.PositionBook

/-!
Owns the cash law of the ledger. Every call of `recordFill` that returns moves
realized profit less the cost basis of the open positions by exactly the cash
of its fill, so over a run both sides agree, and equity marked to market is the
starting capital plus the cash plus the market value of what is held.

Each symbol runs on its own: what a run makes of the position of a symbol, and
whether the calls for that symbol return, depends on the fills of that symbol
only. Two interleavings of the same per-symbol fills therefore agree.
-/

namespace TradingStrands

open TradingStrands.Foundation

/-- The burdened total over the fills of one side. -/
def burdenedSum (side : Side) (fills : List Fill) : Decimal :=
  ((fills.filter fun fill => fill.side = side).map Fill.burdenedTotal).sum

/-- What the sells brought in less what the buys cost. -/
def netCash (fills : List Fill) : Decimal := burdenedSum .sell fills - burdenedSum .buy fills

/-- What an open position has cost. -/
def Position.cost (position : Position) : Decimal :=
  position.quantity * position.burdenedCostBasis

namespace Ledger

def costBasis (ledger : Ledger) : Decimal := (ledger.openPositions.map Position.cost).sum

/-- The map has a price for every open position. -/
def Priced (ledger : Ledger) (marketPrices : PriceMap) : Prop :=
  ∀ position ∈ ledger.openPositions, ∃ price, marketPrices position.symbol = some price

/-- Quantity times price over the open positions. -/
def marketValue (ledger : Ledger) (marketPrices : PriceMap) : Decimal :=
  (ledger.openPositions.map fun position =>
    position.quantity * (marketPrices position.symbol).getD 0).sum

/-- Every call of the sequence returns normally. -/
def AllReturn (ledger : Ledger) (fills : List Fill) : Prop :=
  EachStep recordNext (fun ledger fill => (ledger.recordFill fill).2 = .ok ()) ledger fills

instance (ledger : Ledger) (fills : List Fill) : Decidable (ledger.AllReturn fills) := by
  unfold AllReturn
  infer_instance

/-! ### Cash against profit and cost basis -/

theorem netCash_cons (fill : Fill) (rest : List Fill) :
    netCash (fill :: rest) = netCash [fill] + netCash rest := by
  unfold netCash burdenedSum
  cases side : fill.side with
  | buy =>
      simp [side]
      ring
  | sell =>
      simp [side]
      ring

private def heldCost (held : Option Position) : Decimal := (held.toList.map Position.cost).sum

/-- A covered fill moves the cost of its position by its gain less its cash. -/
private theorem heldCost_nextPosition {ledger : Ledger} {fill : Fill} (sound : ledger.Sound)
    (positive : 0 < fill.quantity) (covered : ledger.Covers fill) :
    heldCost (nextPosition (ledger.findPosition fill.symbol) fill) =
      heldCost (ledger.findPosition fill.symbol) + ledger.gain fill - netCash [fill] := by
  unfold Covers heldQuantity at covered
  cases side : fill.side with
  | buy =>
      have cash : netCash [fill] = -fill.burdenedTotal := by
        simp [netCash, burdenedSum, side]
      cases found : ledger.findPosition fill.symbol with
      | none =>
          simp only [nextPosition, gain, side, heldCost, Position.cost, cash, Option.toList_some,
            Option.toList_none, List.map_cons, List.map_nil, List.sum_cons, List.sum_nil]
          rw [mul_div_cancel₀ _ positive.ne']
          ring
      | some position =>
          have held := sound.positive position (findPosition_mem found).1
          have nonzero : position.quantity + fill.quantity ≠ 0 := by linarith
          simp only [nextPosition, gain, side, heldCost, Position.cost, cash, Option.toList_some,
            List.map_cons, List.map_nil, List.sum_cons, List.sum_nil]
          rw [mul_div_cancel₀ _ nonzero]
          ring
  | sell =>
      have cash : netCash [fill] = fill.burdenedTotal := by
        simp [netCash, burdenedSum, side]
      have enough := covered side
      cases found : ledger.findPosition fill.symbol with
      | none =>
          rw [found] at enough
          exact absurd enough (not_le.mpr positive)
      | some position =>
          rw [found] at enough
          simp only [nextPosition, gain, side, found, if_neg (not_lt.mpr enough), cash]
          by_cases whole : position.quantity = fill.quantity
          · simp only [if_true, heldCost, Position.cost, Option.toList_some, Option.toList_none,
              List.map_cons, List.map_nil, List.sum_cons, List.sum_nil, whole]
            ring
          · simp only [if_neg whole, heldCost, Position.cost, Option.toList_some,
              List.map_cons, List.map_nil, List.sum_cons, List.sum_nil]
            ring

/-- A call that returns moves profit less cost basis by the cash of its fill. -/
theorem Sound.profit_less_cost_recordNext {ledger : Ledger} {fill : Fill} (sound : ledger.Sound)
    (positive : 0 < fill.quantity) (returned : (ledger.recordFill fill).2 = .ok ()) :
    (ledger.recordNext fill).realizedPnl - (ledger.recordNext fill).costBasis =
      ledger.realizedPnl - ledger.costBasis + netCash [fill] := by
  have covered := (sound.recordFill_ok_iff positive).mp returned
  have moved := heldCost_nextPosition sound positive covered
  obtain ⟨rest, before, after⟩ := sound.recordFill_replaces positive
  have costBefore := (before.map Position.cost).sum_eq
  have costAfter := (after.map Position.cost).sum_eq
  rw [List.map_append, List.sum_append] at costBefore costAfter
  unfold heldCost at moved
  unfold Ledger.recordNext costBasis
  rw [realizedPnl_recordFill returned, costAfter, costBefore, moved]
  ring

theorem Sound.profit_less_cost_recordFills {ledger : Ledger} (sound : ledger.Sound)
    {fills : List Fill} (positive : ∀ fill ∈ fills, 0 < fill.quantity)
    (returned : ledger.AllReturn fills) :
    (ledger.recordFills fills).realizedPnl - (ledger.recordFills fills).costBasis =
      ledger.realizedPnl - ledger.costBasis + netCash fills := by
  induction fills generalizing ledger with
  | nil => simp [Ledger.recordFills, netCash, burdenedSum]
  | cons fill rest inductionHypothesis =>
      obtain ⟨here, later⟩ := returned
      have positiveHere := positive fill (by simp)
      have tail := inductionHypothesis (sound.recordNext positiveHere)
        (fun other member => positive other (by simp [member])) later
      unfold Ledger.recordFills at tail ⊢
      rw [run_cons, tail, sound.profit_less_cost_recordNext positiveHere here,
        netCash_cons fill rest]
      ring

theorem startingCapital_recordFills (ledger : Ledger) (fills : List Fill) :
    (ledger.recordFills fills).startingCapital = ledger.startingCapital := by
  induction fills generalizing ledger with
  | nil => rfl
  | cons fill rest inductionHypothesis =>
      unfold Ledger.recordFills at inductionHypothesis ⊢
      rw [run_cons, inductionHypothesis]
      unfold recordNext
      exact startingCapital_recordFill ledger fill

/-! ### Marking to market -/

private theorem unrealizedTotal_eq {marketPrices : PriceMap} {positions : List Position}
    (priced : ∀ position ∈ positions, ∃ price, marketPrices position.symbol = some price) :
    unrealizedTotal marketPrices positions =
      .ok ((positions.map fun position =>
          position.quantity * (marketPrices position.symbol).getD 0).sum -
        (positions.map Position.cost).sum) := by
  induction positions with
  | nil => exact congrArg Except.ok (sub_self 0).symm
  | cons position rest inductionHypothesis =>
      obtain ⟨price, quoted⟩ := priced position (by simp)
      have tail := inductionHypothesis fun other member => priced other (by simp [member])
      simp only [unrealizedTotal, quoted, tail, List.map_cons, List.sum_cons, Option.getD_some]
      refine congrArg Except.ok ?_
      unfold Position.unrealizedPnl Position.cost
      ring

/-- Marked equity is the capital, the profit and what the positions are worth
beyond their cost. -/
theorem equityMarked_of_priced {ledger : Ledger} {marketPrices : PriceMap}
    (priced : ledger.Priced marketPrices) :
    ledger.equityMarked marketPrices =
      .ok (ledger.equity + (ledger.marketValue marketPrices - ledger.costBasis)) := by
  unfold equityMarked
  rw [unrealizedTotal_eq priced]
  rfl

/-! ### Each symbol on its own -/

/-- The position can take the fill. -/
def Accepts (held : Option Position) (fill : Fill) : Prop :=
  fill.side = .sell → fill.quantity ≤ (held.map Position.quantity).getD 0

theorem covers_iff_accepts (ledger : Ledger) (fill : Fill) :
    ledger.Covers fill ↔ Accepts (ledger.findPosition fill.symbol) fill := by
  unfold Covers Accepts heldQuantity
  cases ledger.findPosition fill.symbol <;> rfl

/-- The fills of one symbol, in their order. -/
def fillsOf (fills : List Fill) (symbol : Symbol) : List Fill :=
  fills.filter fun fill => fill.symbol = symbol

private theorem fillsOf_cons (fill : Fill) (rest : List Fill) (symbol : Symbol) :
    fillsOf (fill :: rest) symbol =
      if symbol = fill.symbol then fill :: fillsOf rest symbol else fillsOf rest symbol := by
  unfold fillsOf
  by_cases same : symbol = fill.symbol
  · simp [same]
  · simp [same, Ne.symm same]

/-- The position of a symbol after a run is settled by the fills of the symbol. -/
theorem Sound.findPosition_recordFills {ledger : Ledger} (sound : ledger.Sound)
    {fills : List Fill} (positive : ∀ fill ∈ fills, 0 < fill.quantity) (symbol : Symbol) :
    (ledger.recordFills fills).findPosition symbol =
      run nextPosition (ledger.findPosition symbol) (fillsOf fills symbol) := by
  induction fills generalizing ledger with
  | nil => rfl
  | cons fill rest inductionHypothesis =>
      have positiveHere := positive fill (by simp)
      have tail := inductionHypothesis (sound.recordNext positiveHere)
        fun other member => positive other (by simp [member])
      unfold Ledger.recordFills at tail ⊢
      rw [run_cons, tail, fillsOf_cons]
      unfold Ledger.recordNext
      rw [sound.findPosition_recordFill positiveHere]
      split
      · rw [run_cons]
      · rfl

/-- A run returns normally exactly when the calls of each symbol do. -/
theorem Sound.allReturn_iff {ledger : Ledger} (sound : ledger.Sound) {fills : List Fill}
    (positive : ∀ fill ∈ fills, 0 < fill.quantity) :
    ledger.AllReturn fills ↔
      ∀ symbol, EachStep nextPosition Accepts (ledger.findPosition symbol)
        (fillsOf fills symbol) := by
  induction fills generalizing ledger with
  | nil => exact iff_of_true trivial fun _ => trivial
  | cons fill rest inductionHypothesis =>
      have positiveHere := positive fill (by simp)
      have tail := inductionHypothesis (sound.recordNext positiveHere)
        fun other member => positive other (by simp [member])
      have here := (sound.recordFill_ok_iff positiveHere).trans (covers_iff_accepts ledger fill)
      have settled : ∀ symbol, (ledger.recordNext fill).findPosition symbol =
          if symbol = fill.symbol then nextPosition (ledger.findPosition symbol) fill
          else ledger.findPosition symbol := sound.findPosition_recordFill positiveHere
      unfold AllReturn at tail ⊢
      rw [EachStep, here, tail]
      constructor
      · rintro ⟨accepts, later⟩ symbol
        have rest := later symbol
        rw [settled] at rest
        rw [fillsOf_cons]
        split_ifs at rest ⊢ with own
        · subst own
          exact ⟨accepts, rest⟩
        · exact rest
      · intro all
        constructor
        · have own := all fill.symbol
          rw [fillsOf_cons, if_pos rfl] at own
          exact own.1
        · intro symbol
          have whole := all symbol
          rw [fillsOf_cons] at whole
          rw [settled]
          split_ifs at whole ⊢ with own
          · exact whole.2
          · exact whole

/-- Two interleavings of the same per-symbol fills are permutations. -/
theorem perm_of_fillsOf {fills other : List Fill}
    (same : ∀ symbol, fillsOf other symbol = fillsOf fills symbol) : other.Perm fills := by
  refine List.perm_iff_count.mpr fun fill => ?_
  have ofSymbol : ∀ list : List Fill, (fillsOf list fill.symbol).count fill = list.count fill :=
    fun list => List.count_filter (by simp)
  rw [← ofSymbol other, ← ofSymbol fills, same]

private theorem netCash_perm {fills other : List Fill} (permutation : other.Perm fills) :
    netCash other = netCash fills := by
  unfold netCash burdenedSum
  rw [((permutation.filter _).map _).sum_eq, ((permutation.filter _).map _).sum_eq]

/-- From no profit and no positions, the cash of the fills is the profit less the
cost of what is open. -/
private theorem netCash_of_fresh {ledger : Ledger} {fills : List Fill}
    (noProfit : ledger.realizedPnl = 0) (noPositions : ledger.openPositions = [])
    (positive : ∀ fill ∈ fills, 0 < fill.quantity) (returned : ledger.AllReturn fills) :
    (ledger.recordFills fills).realizedPnl - (ledger.recordFills fills).costBasis =
      netCash fills := by
  have sound := Sound.of_noPositions noPositions
  have startCost : ledger.costBasis = 0 := by
    unfold costBasis
    rw [noPositions]
    rfl
  rw [sound.profit_less_cost_recordFills positive returned, noProfit, startCost]
  ring

section Interleaving

variable {ledger : Ledger} {fills other : List Fill}

private theorem positive_of_interleaving (positive : ∀ fill ∈ fills, 0 < fill.quantity)
    (same : ∀ symbol, fillsOf other symbol = fillsOf fills symbol) :
    ∀ fill ∈ other, 0 < fill.quantity :=
  fun fill member => positive fill ((perm_of_fillsOf same).mem_iff.mp member)

theorem Sound.allReturn_of_interleaving (sound : ledger.Sound)
    (positive : ∀ fill ∈ fills, 0 < fill.quantity)
    (same : ∀ symbol, fillsOf other symbol = fillsOf fills symbol)
    (returned : ledger.AllReturn fills) : ledger.AllReturn other := by
  rw [sound.allReturn_iff (positive_of_interleaving positive same)]
  intro symbol
  rw [same]
  exact (sound.allReturn_iff positive).mp returned symbol

theorem Sound.findPosition_of_interleaving (sound : ledger.Sound)
    (positive : ∀ fill ∈ fills, 0 < fill.quantity)
    (same : ∀ symbol, fillsOf other symbol = fillsOf fills symbol) (symbol : Symbol) :
    (ledger.recordFills other).findPosition symbol =
      (ledger.recordFills fills).findPosition symbol := by
  rw [sound.findPosition_recordFills (positive_of_interleaving positive same), same,
    ← sound.findPosition_recordFills positive]

theorem Sound.positions_perm_of_interleaving (sound : ledger.Sound)
    (positive : ∀ fill ∈ fills, 0 < fill.quantity)
    (same : ∀ symbol, fillsOf other symbol = fillsOf fills symbol) :
    (ledger.recordFills other).openPositions.Perm (ledger.recordFills fills).openPositions :=
  (sound.recordFills (positive_of_interleaving positive same)).openPositions_perm
    (sound.recordFills positive) (sound.findPosition_of_interleaving positive same)

/-- The same position objects cost the same, and with the same cash the profit
is the same. -/
private theorem equity_of_interleaving (noProfit : ledger.realizedPnl = 0)
    (noPositions : ledger.openPositions = []) (positive : ∀ fill ∈ fills, 0 < fill.quantity)
    (same : ∀ symbol, fillsOf other symbol = fillsOf fills symbol)
    (returned : ledger.AllReturn fills) :
    (ledger.recordFills other).equity = (ledger.recordFills fills).equity := by
  have sound := Sound.of_noPositions noPositions
  have here := netCash_of_fresh noProfit noPositions positive returned
  have there := netCash_of_fresh noProfit noPositions (positive_of_interleaving positive same)
    (sound.allReturn_of_interleaving positive same returned)
  have sameCost : (ledger.recordFills other).costBasis = (ledger.recordFills fills).costBasis :=
    ((sound.positions_perm_of_interleaving positive same).map _).sum_eq
  rw [netCash_perm (perm_of_fillsOf same), ← here, sameCost] at there
  unfold equity
  rw [sub_left_inj.mp there, startingCapital_recordFills, startingCapital_recordFills]

end Interleaving

/-! ### The cash law -/

/-- From no profit and no positions, over calls that all return: proceeds less
costs are realized profit less the cost basis of what is open; marked equity is
capital plus cash plus market value; and every interleaving of the same
per-symbol fills returns normally too, to the same equity, marked or not, and
the same position for each symbol. -/
theorem cash_conserved (ledger : Ledger) (fills : List Fill)
    (noProfit : ledger.realizedPnl = 0) (noPositions : ledger.openPositions = [])
    (positive : ∀ fill ∈ fills, 0 < fill.quantity) (returned : ledger.AllReturn fills) :
    let after := ledger.recordFills fills
    burdenedSum .sell fills - burdenedSum .buy fills =
        after.realizedPnl -
          (after.openPositions.map fun position =>
            position.quantity * position.burdenedCostBasis).sum ∧
      (∀ marketPrices, after.Priced marketPrices →
        after.equityMarked marketPrices =
          .ok (ledger.startingCapital + (burdenedSum .sell fills - burdenedSum .buy fills) +
            after.marketValue marketPrices)) ∧
      ∀ other, (∀ symbol, fillsOf other symbol = fillsOf fills symbol) →
        ledger.AllReturn other ∧
          (ledger.recordFills other).equity = after.equity ∧
          (∀ marketPrices, after.Priced marketPrices →
            (ledger.recordFills other).equityMarked marketPrices =
              after.equityMarked marketPrices) ∧
          ∀ symbol, (ledger.recordFills other).findPosition symbol = after.findPosition symbol := by
  intro after
  have sound := Sound.of_noPositions noPositions
  have law : after.realizedPnl - after.costBasis = netCash fills :=
    netCash_of_fresh noProfit noPositions positive returned
  refine ⟨law.symm, fun marketPrices priced => ?_, fun other same => ?_⟩
  · rw [equityMarked_of_priced priced]
    have capital : after.equity = ledger.startingCapital + after.realizedPnl :=
      congrArg (· + after.realizedPnl) (startingCapital_recordFills ledger fills)
    have cash : netCash fills = burdenedSum .sell fills - burdenedSum .buy fills := rfl
    refine congrArg Except.ok ?_
    rw [capital, ← cash, ← law]
    ring
  · have positions := sound.positions_perm_of_interleaving positive same
    have sameEquity : (ledger.recordFills other).equity = after.equity :=
      equity_of_interleaving noProfit noPositions positive same returned
    refine ⟨sound.allReturn_of_interleaving positive same returned, sameEquity,
      fun marketPrices priced => ?_, sound.findPosition_of_interleaving positive same⟩
    have pricedOther : (ledger.recordFills other).Priced marketPrices :=
      fun position member => priced position (positions.mem_iff.mp member)
    have sameCost : (ledger.recordFills other).costBasis = after.costBasis :=
      (positions.map _).sum_eq
    have sameValue : (ledger.recordFills other).marketValue marketPrices =
        after.marketValue marketPrices := (positions.map _).sum_eq
    rw [equityMarked_of_priced pricedOther, equityMarked_of_priced priced, sameEquity, sameCost,
      sameValue]

/-- Two symbols interleaved, with fees and a partial sell. -/
theorem cash_conserved_interleaved :
    let buy : Fill := ⟨"AAPL", .buy, 4, 10, { commission := 1 }⟩
    let other : Fill := ⟨"MSFT", .buy, 2, 30, {}⟩
    let sell : Fill := ⟨"AAPL", .sell, 1, 12, { secFee := 1 / 10 }⟩
    let after := (ofCapital 1000).recordFills [buy, other, sell]
    burdenedSum .sell [buy, other, sell] - burdenedSum .buy [buy, other, sell] =
        after.realizedPnl - 123 / 4 - 60 ∧
      ((ofCapital 1000).recordFills [other, buy, sell]).equity = after.equity := by
  intro buy other sell after
  have conserved := cash_conserved (ofCapital 1000) [buy, other, sell] (by decide +kernel)
    (by decide +kernel) (by decide +kernel) (by decide +kernel)
  have interleaved : ∀ symbol, fillsOf [other, buy, sell] symbol =
      fillsOf [buy, other, sell] symbol := by
    intro symbol
    unfold fillsOf
    by_cases apple : symbol = "AAPL"
    · subst apple
      decide +kernel
    · have notBuy : ¬ buy.symbol = symbol := fun same => apple same.symm
      simp only [List.filter_cons, notBuy, decide_false, Bool.false_eq_true, if_false]
  refine ⟨?_, (conserved.2.2 [other, buy, sell] interleaved).2.1⟩
  rw [conserved.1]
  have positions : after.openPositions = [⟨"AAPL", 3, 41 / 4⟩, ⟨"MSFT", 2, 30⟩] := by
    decide +kernel
  rw [positions]
  norm_num
  ring

end Ledger

end TradingStrands
