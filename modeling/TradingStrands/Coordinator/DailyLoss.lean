import TradingStrands.Coordinator.Calls
import TradingStrands.Foundation.Runs
import TradingStrands.Risk.BuyGate

/-!
Owns the daily loss cap along the calls of one trading day. The gate compares
the risk manager's loss counter with the cap, and no call ever feeds the
counter: it stays at its reset value while the fills realize losses. The cap is
enforced on a day exactly when there is no loss for it to count.
-/

namespace TradingStrands

open TradingStrands.Foundation

variable {β : Type}

/-- What a call has lost: the drop of the realized profit of its bot's ledger. -/
def System.lossOf (system : System β) (call : Call β) : Decimal :=
  match system.ledger? call.intent.botId, (system.perform call).ledger? call.intent.botId with
  | some before, some after => max 0 (before.realizedPnl - after.realizedPnl)
  | _, _ => 0

/-- A system and the losses realized by its calls since the counter was reset. -/
structure TradingDay (β : Type) where
  system : System β
  losses : Decimal := 0

namespace TradingDay

def perform (day : TradingDay β) (call : Call β) : TradingDay β :=
  ⟨day.system.perform call, day.losses + day.system.lossOf call⟩

/-- The counter the gate tests is not below the realized losses. -/
def LossesCounted (day : TradingDay β) : Prop :=
  day.losses ≤ day.system.coordinator.riskManager.dailyLoss

/-- Once the losses exceed the cap, no buy of the bot is submitted. -/
def CapEnforced (day : TradingDay β) (call : Call β) : Prop :=
  ∀ ledger, day.system.ledger? call.intent.botId = some ledger → call.intent.action = .buy →
    day.system.coordinator.riskManager.config.dailyLossCapPct * ledger.equity < day.losses →
      (execute day.system call.env call.intent).2.submitted = none

/-- A fill of the call that is recorded brings in at least what it has cost. -/
def Lossless (day : TradingDay β) (call : Call β) : Prop :=
  ∀ broker ledger prices fill, Submits day.system call.env call.intent broker ledger prices →
    reportedFill call.env call.intent broker = some fill →
      (ledger.recordFill fill).2 = .ok () → 0 ≤ ledger.gain fill

/-- A buy on a ledger whose cap is negative is stopped by a check of the gate. -/
def StoppedBelowZero (day : TradingDay β) (call : Call β) : Prop :=
  ∀ broker ledger prices, ReachesGate day.system call.env call.intent broker ledger prices →
    call.intent.action = .buy →
      day.system.coordinator.riskManager.config.dailyLossCapPct * ledger.equity < 0 →
        day.system.coordinator.riskManager.Stops call.intent ledger prices

/-- The counter is at its reset value, and losses only add up. -/
structure Reset (day : TradingDay β) : Prop where
  counter : day.system.coordinator.riskManager.dailyLoss = 0
  losses : 0 ≤ day.losses

/-! ### One call -/

theorem lossOf_nonneg (system : System β) (call : Call β) : 0 ≤ system.lossOf call := by
  unfold System.lossOf
  split
  · exact le_max_left _ _
  · exact le_rfl

/-- No call touches the counter. -/
theorem Reset.perform {day : TradingDay β} (reset : day.Reset) (call : Call β) :
    (day.perform call).Reset := by
  refine ⟨?_, add_nonneg reset.losses (lossOf_nonneg day.system call)⟩
  unfold TradingDay.perform System.perform
  rw [riskManager_execute]
  exact reset.counter

theorem lossOf_of_submits {system : System β} {call : Call β} {broker : β} {ledger : Ledger}
    {prices : PriceMap} (submits : Submits system call.env call.intent broker ledger prices) :
    system.lossOf call =
      match reportedFill call.env call.intent broker with
      | none => 0
      | some fill => max 0 (ledger.realizedPnl - (ledger.recordFill fill).1.realizedPnl) := by
  unfold System.lossOf System.perform
  rw [ledger?_execute_of_submits submits, if_pos rfl, submits.registered]
  cases reportedFill call.env call.intent broker with
  | none => simp only [sub_self, max_self]
  | some fill => rfl

private theorem realizedPnl_recordFill_sub {ledger : Ledger} {fill : Fill}
    (booked : (ledger.recordFill fill).2 = .ok ()) :
    ledger.realizedPnl - (ledger.recordFill fill).1.realizedPnl = -ledger.gain fill := by
  rw [Ledger.realizedPnl_recordFill booked]
  ring

/-- A call loses nothing exactly when it is lossless. -/
theorem lossOf_eq_zero_iff {day : TradingDay β} {call : Call β} :
    day.system.lossOf call = 0 ↔ day.Lossless call := by
  constructor
  · intro nothing broker ledger prices fill submits reported booked
    rw [lossOf_of_submits submits, reported] at nothing
    simp only [realizedPnl_recordFill_sub booked, max_eq_left_iff] at nothing
    linarith
  · intro lossless
    rcases execute_cases day.system call.env call.intent with
      ⟨-, cache, same⟩ | ⟨broker, ledger, prices, submits⟩
    · unfold System.lossOf System.perform
      rw [same, System.ledger?_setCache]
      cases day.system.ledger? call.intent.botId with
      | none => rfl
      | some ledger => simp only [sub_self, max_self]
    · rw [lossOf_of_submits submits]
      cases reported : reportedFill call.env call.intent broker with
      | none => rfl
      | some fill =>
          by_cases booked : (ledger.recordFill fill).2 = .ok ()
          · have gained := lossless broker ledger prices fill submits reported booked
            simp only [realizedPnl_recordFill_sub booked]
            exact max_eq_left (by linarith)
          · simp only [Ledger.realizedPnl_of_raised booked, sub_self, max_self]

/-- Where the counter is at its reset value and covers the losses, there are none. -/
theorem Reset.losses_eq_zero {day : TradingDay β} (reset : day.Reset)
    (counted : day.LossesCounted) : day.losses = 0 := by
  unfold LossesCounted at counted
  rw [reset.counter] at counted
  exact le_antisymm counted reset.losses

theorem Reset.lossesCounted_perform_iff {day : TradingDay β} {call : Call β} (reset : day.Reset)
    (counted : day.LossesCounted) : (day.perform call).LossesCounted ↔ day.Lossless call := by
  have noLosses := reset.losses_eq_zero counted
  rw [← lossOf_eq_zero_iff]
  unfold LossesCounted
  rw [(reset.perform call).counter]
  unfold TradingDay.perform
  simp only [noLosses, zero_add]
  exact ⟨fun atMost => le_antisymm atMost (lossOf_nonneg day.system call), fun same => same.le⟩

/-- Without losses, the cap speaks of ledgers whose cap is negative only. -/
theorem Reset.capEnforced_iff {day : TradingDay β} {call : Call β} (reset : day.Reset)
    (counted : day.LossesCounted) : day.CapEnforced call ↔ day.StoppedBelowZero call := by
  have noLosses := reset.losses_eq_zero counted
  unfold CapEnforced
  rw [noLosses]
  constructor
  · intro enforced broker ledger prices reaches buys below
    by_contra passes
    have submits : Submits day.system call.env call.intent broker ledger prices :=
      ⟨reaches, (RiskManager.approved_iff_not_stops buys).mpr passes⟩
    have nothing := enforced ledger reaches.registered buys below
    rw [submitted_iff.mpr ⟨rfl, ledger, prices, submits⟩] at nothing
    cases nothing
  · intro stopped ledger registered buys below
    rcases execute_cases day.system call.env call.intent with
      ⟨nothing, -⟩ | ⟨broker, other, prices, submits⟩
    · exact nothing
    · obtain rfl : other = ledger := Option.some.inj (submits.registered.symm.trans registered)
      have stops := stopped broker other prices submits.toReachesGate buys below
      exact absurd stops ((RiskManager.approved_iff_not_stops buys).mp submits.approved)

/-! ### The whole day -/

/-- From a reset counter, the counter covers the losses throughout and no buy
is submitted beyond the cap exactly when no recorded fill loses anything and no
buy passes the gate on a ledger whose cap is negative. -/
theorem capEnforced_iff_lossless (system : System β) (calls : List (Call β))
    (reset : system.coordinator.riskManager.dailyLoss = 0) :
    (Always perform LossesCounted ⟨system, 0⟩ calls ∧
        EachStep perform CapEnforced ⟨system, 0⟩ calls) ↔
      EachStep perform (fun day call => day.Lossless call ∧ day.StoppedBelowZero call)
        ⟨system, 0⟩ calls := by
  have start : (⟨system, 0⟩ : TradingDay β).Reset := ⟨reset, le_rfl⟩
  have counted : (⟨system, 0⟩ : TradingDay β).LossesCounted := reset.ge
  have anyCall : EachStep perform (fun _ _ => True) (⟨system, 0⟩ : TradingDay β) calls :=
    eachStep_true perform _ calls
  have covered : Always perform LossesCounted ⟨system, 0⟩ calls ↔
      EachStep perform Lossless ⟨system, 0⟩ calls :=
    always_iff_eachStep_of_kept perform (fun _ call reset _ => reset.perform call)
      (fun _ _ reset counted _ => reset.lossesCounted_perform_iff counted) start counted anyCall
  have enforced : EachStep perform Lossless ⟨system, 0⟩ calls →
      (EachStep perform CapEnforced ⟨system, 0⟩ calls ↔
        EachStep perform StoppedBelowZero ⟨system, 0⟩ calls) := by
    have keeps : ∀ (day : TradingDay β) call, day.Reset ∧ day.LossesCounted → day.Lossless call →
        (day.perform call).Reset ∧ (day.perform call).LossesCounted :=
      fun _ call both lossless => ⟨both.1.perform call,
        (both.1.lossesCounted_perform_iff both.2).mpr lossless⟩
    exact eachStep_congr perform keeps (fun _ _ both _ => both.1.capEnforced_iff both.2)
      ⟨start, counted⟩
  rw [covered]
  constructor
  · rintro ⟨lossless, caps⟩
    exact lossless.and perform ((enforced lossless).mp caps)
  · intro both
    have lossless := both.mono perform fun _ _ => And.left
    exact ⟨lossless, (enforced lossless).mpr (both.mono perform fun _ _ => And.right)⟩

/-- One buy on a fresh ledger. -/
theorem capEnforced_iff_lossless_buy :
    let calls : List (Call Unit) := [⟨CallEnv.steady 100, ⟨"bot", "org", "AAPL", .buy, 1, ""⟩⟩]
    (Always perform LossesCounted ⟨System.single "bot" 1000, 0⟩ calls ∧
        EachStep perform CapEnforced ⟨System.single "bot" 1000, 0⟩ calls) ↔
      EachStep perform (fun day call => day.Lossless call ∧ day.StoppedBelowZero call)
        ⟨System.single "bot" 1000, 0⟩ calls :=
  capEnforced_iff_lossless (System.single "bot" 1000) _ rfl

/-- Two shares bought at 100 and sold at 50 lose 100 of 1000, twice the cap of
the 900 that are left; the counter stays at zero and the next buy is submitted. -/
theorem not_capEnforced_after_loss :
    let calls : List (Call Unit) :=
      [⟨CallEnv.steady 100, ⟨"bot", "org", "AAPL", .buy, 2, ""⟩⟩,
        ⟨CallEnv.steady 50, ⟨"bot", "org", "AAPL", .sell, 2, ""⟩⟩,
        ⟨CallEnv.steady 50, ⟨"bot", "org", "AAPL", .buy, 1, ""⟩⟩]
    ¬ Always perform LossesCounted ⟨System.single "bot" 1000, 0⟩ calls ∧
      ¬ EachStep perform CapEnforced ⟨System.single "bot" 1000, 0⟩ calls := by
  intro calls
  constructor
  · intro counted
    have final := counted.final perform
    unfold LossesCounted at final
    exact absurd final (by decide +kernel)
  · rintro ⟨-, -, enforced, -⟩
    let bought : Fill := ⟨"AAPL", .buy, 2, 100, {}⟩
    let sold : Fill := ⟨"AAPL", .sell, 2, 50, {}⟩
    let ledger := ((Ledger.ofCapital 1000).recordFill bought).1
    have nothing := enforced (ledger.recordFill sold).1 (by decide +kernel) rfl (by decide +kernel)
    exact absurd nothing (by decide +kernel)

end TradingDay

end TradingStrands
