import TradingStrands.Foundation.Runs
import TradingStrands.LedgerStore.Store

/-!
Owns the high-water mark of a ledger along a run of fills and of round trips
through the ledger store. A reloaded ledger runs the constructor's hook again,
which takes a mark of zero for one that was never set. From a non-negative
capital the mark is the running maximum of the equity and is zero only where the
capital is, so the hook changes nothing.
-/

namespace TradingStrands.LedgerStore

open TradingStrands.Foundation

/-- What happens to a bot's ledger: a fill is recorded, or the ledger is saved and
loaded again. -/
inductive MarkEvent
  | fill (fill : Fill)
  | roundTrip (updatedAt : Int)
deriving DecidableEq

/-- A bot's ledger in memory and the table. -/
structure Holding where
  ledger : Ledger
  table : Table := Dict.empty

namespace Holding

/-- A round trip that gives no ledger back would leave the one in memory. -/
def step (botId : BotId) (holding : Holding) : MarkEvent → Holding
  | .fill fill => { holding with ledger := (holding.ledger.recordFill fill).1 }
  | .roundTrip updatedAt =>
      let saved := saveSnapshot holding.table botId holding.ledger updatedAt
      match loadSnapshot saved botId with
      | .ok (some reloaded) => { ledger := reloaded, table := saved }
      | _ => { holding with table := saved }

/-- The equity after each fill of a run. -/
def equities (botId : BotId) (holding : Holding) : List MarkEvent → List Decimal
  | [] => []
  | .fill fill :: rest =>
      let next := holding.step botId (.fill fill)
      next.ledger.equity :: equities botId next rest
  | .roundTrip updatedAt :: rest => equities botId (holding.step botId (.roundTrip updatedAt)) rest

end Holding

/-- The mark is at least the equity and the capital, which is not negative. -/
structure Marked (ledger : Ledger) : Prop where
  capital : 0 ≤ ledger.startingCapital
  aboveCapital : ledger.startingCapital ≤ ledger.highWaterMark
  aboveEquity : ledger.equity ≤ ledger.highWaterMark

theorem marked_ofCapital {capital : Decimal} (nonneg : 0 ≤ capital) :
    Marked (Ledger.ofCapital capital) ∧ (Ledger.ofCapital capital).highWaterMark = capital := by
  have fresh : Ledger.ofCapital capital =
      { startingCapital := capital, highWaterMark := capital } := by
    unfold Ledger.ofCapital Ledger.modelPostInit
    rfl
  have equity : ({ startingCapital := capital, highWaterMark := capital } : Ledger).equity =
      capital := add_zero capital
  rw [fresh]
  exact ⟨⟨nonneg, le_rfl, equity.le⟩, rfl⟩

theorem Marked.reloads {ledger : Ledger} (marked : Marked ledger) : ledger.Reloads := by
  intro unset
  have below := marked.aboveCapital
  rw [unset] at below
  exact le_antisymm below marked.capital

theorem Marked.drawdownPct_nonneg {ledger : Ledger} (marked : Marked ledger) :
    0 ≤ ledger.drawdownPct := by
  have mark := marked.capital.trans marked.aboveCapital
  have drawdown : 0 ≤ ledger.drawdownFromHwm := sub_nonneg.mpr marked.aboveEquity
  unfold Ledger.drawdownPct
  split
  · exact le_rfl
  · exact div_nonneg drawdown mark

/-- Saving a ledger whose mark is above its capital and loading it gives it back. -/
theorem Marked.loadSnapshot_saveSnapshot {ledger : Ledger} (marked : Marked ledger) (table : Table)
    (botId : BotId) (updatedAt : Int) :
    loadSnapshot (saveSnapshot table botId ledger updatedAt) botId = .ok (some ledger) := by
  rw [loadSnapshot_saveSnapshot_self, ledger.modelValidate_eq_iff.mpr marked.reloads]

/-- A recorded fill, booked or not, lifts the mark to the equity it leaves. -/
theorem Marked.recordFill {ledger : Ledger} (marked : Marked ledger) (fill : Fill) :
    Marked (ledger.recordFill fill).1 ∧ (ledger.recordFill fill).1.highWaterMark =
      max ledger.highWaterMark (ledger.recordFill fill).1.equity := by
  have capital := ledger.startingCapital_recordFill fill
  have mark : (ledger.recordFill fill).1.highWaterMark =
      max ledger.highWaterMark (ledger.recordFill fill).1.equity := by
    rcases ledger.recordFill_cases fill with ⟨error, same⟩ | ⟨positions, same⟩
    · rw [same]
      exact (max_eq_left marked.aboveEquity).symm
    · have equity : (ledger.booked fill positions).equity = ledger.equity + ledger.gain fill := by
        unfold Ledger.booked Ledger.equity
        rw [Ledger.startingCapital_updateHighWaterMark, Ledger.realizedPnl_updateHighWaterMark]
        exact (add_assoc _ _ _).symm
      rw [same, ledger.highWaterMark_booked, equity]
  refine ⟨⟨?_, ?_, ?_⟩, mark⟩
  · rw [capital]
    exact marked.capital
  · rw [capital, mark]
    exact marked.aboveCapital.trans (le_max_left _ _)
  · rw [mark]
    exact le_max_right _ _

/-! ### Runs -/

/-- One step keeps the invariant; a round trip leaves the ledger as it is. -/
theorem Marked.step {holding : Holding} (marked : Marked holding.ledger) (botId : BotId)
    (event : MarkEvent) :
    Marked (holding.step botId event).ledger ∧
      (holding.step botId event).ledger = match event with
        | .fill fill => (holding.ledger.recordFill fill).1
        | .roundTrip _ => holding.ledger := by
  cases event with
  | fill fill => exact ⟨(marked.recordFill fill).1, rfl⟩
  | roundTrip updatedAt =>
      have reloaded : (holding.step botId (.roundTrip updatedAt)).ledger = holding.ledger := by
        unfold Holding.step
        dsimp only
        rw [marked.loadSnapshot_saveSnapshot]
      exact ⟨reloaded ▸ marked, reloaded⟩

theorem Marked.mark_le_step {holding : Holding} (marked : Marked holding.ledger) (botId : BotId)
    (event : MarkEvent) :
    holding.ledger.highWaterMark ≤ (holding.step botId event).ledger.highWaterMark := by
  obtain ⟨-, same⟩ := marked.step botId event
  rw [same]
  cases event with
  | fill fill =>
      dsimp only
      rw [(marked.recordFill fill).2]
      exact le_max_left _ _
  | roundTrip updatedAt => exact le_rfl

theorem Marked.run {holding : Holding} (marked : Marked holding.ledger) (botId : BotId)
    (events : List MarkEvent) :
    Marked (run (Holding.step botId) holding events).ledger ∧
      (run (Holding.step botId) holding events).ledger.highWaterMark =
        (holding.equities botId events).foldl max holding.ledger.highWaterMark := by
  induction events generalizing holding with
  | nil => exact ⟨marked, rfl⟩
  | cons event rest inductionHypothesis =>
      obtain ⟨next, same⟩ := marked.step botId event
      obtain ⟨last, mark⟩ := inductionHypothesis next
      refine ⟨last, ?_⟩
      rw [run_cons, mark]
      cases event with
      | fill fill =>
          show _ = (Holding.equities _ _ rest).foldl max (max _ _)
          rw [same, (marked.recordFill fill).2]
      | roundTrip updatedAt =>
          rw [same]
          rfl

/-- From a non-negative capital, after any sequence of fills and of round trips
through the store: the mark is the maximum of the capital and the equity after
each fill, no next step lowers it, the drawdown is not negative, and a round
trip gives back the very ledger that was saved. -/
theorem highWaterMark_run (botId : BotId) (table : Table) {capital : Decimal}
    (nonneg : 0 ≤ capital) (events : List MarkEvent) :
    let start : Holding := { ledger := Ledger.ofCapital capital, table }
    let after := run (Holding.step botId) start events
    after.ledger.highWaterMark = (start.equities botId events).foldl max capital ∧
      0 ≤ after.ledger.drawdownPct ∧
      (∀ event, after.ledger.highWaterMark ≤ (after.step botId event).ledger.highWaterMark) ∧
      ∀ updatedAt, loadSnapshot (saveSnapshot after.table botId after.ledger updatedAt) botId =
        .ok (some after.ledger) := by
  intro start after
  obtain ⟨fresh, initial⟩ := marked_ofCapital nonneg
  have startMarked : Marked start.ledger := fresh
  have startMark : start.ledger.highWaterMark = capital := initial
  obtain ⟨marked, mark⟩ := startMarked.run botId events
  rw [startMark] at mark
  exact ⟨mark, marked.drawdownPct_nonneg, marked.mark_le_step botId,
    marked.loadSnapshot_saveSnapshot after.table botId⟩

/-- A gain from no capital at all, kept across a round trip and a later loss. -/
theorem highWaterMark_run_gain :
    let events : List MarkEvent := [.roundTrip 1, .fill ⟨"AAPL", .buy, 2, 10, {}⟩,
      .fill ⟨"AAPL", .sell, 1, 15, {}⟩, .roundTrip 2, .fill ⟨"AAPL", .sell, 1, 8, {}⟩]
    let start : Holding := { ledger := Ledger.ofCapital 0 }
    let after := run (Holding.step "bot") start events
    start.equities "bot" events = [0, 5, 3] ∧ after.ledger.highWaterMark = 5 := by
  intro events start after
  have listed : start.equities "bot" events = [0, 5, 3] := by decide +kernel
  obtain ⟨mark, -⟩ := highWaterMark_run "bot" Dict.empty (le_refl (0 : Decimal)) events
  refine ⟨listed, mark.trans ?_⟩
  show (start.equities "bot" events).foldl max 0 = 5
  rw [listed]
  decide +kernel

end TradingStrands.LedgerStore
