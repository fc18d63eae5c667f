import TradingStrands.Auditor.Reconciler
import TradingStrands.Coordinator.Calls
import TradingStrands.Dashboard.Publisher
import TradingStrands.Risk.KillSwitch

/-!
Owns the tick loop as far as it touches the desk halt: the poll of the remote
flag that opens a tick, the wake phase, and the periodic reconciliation that
closes it. A tick gives up control while it fetches prices and while its bots
decide and trade, so kill-switch calls, dashboard writes and operators act
between its parts.

Predicates, bot decisions, market-data recording, what-if tracking, snapshots
and telemetry are not modelled; none of them touches a halt.
-/

namespace TradingStrands

open TradingStrands.Foundation

variable {β : Type}

/-- Where the tick loop stands. -/
inductive TickPhase
  | idle
  | fetching
  | waking
deriving DecidableEq, Repr

structure Orchestrator (β : Type) where
  system : System β
  publisher : Bool := true
  reconciler : Option Reconciler := none
  reconcilerCyclesFailed : Int := 0
  lastReconcileTick : Int := -1
  /-- Reconcile every that many ticks. -/
  reconcileInterval : Int := 60
  bots : Finset BotId := ∅
  tick : Int := 0
  phase : TickPhase := .idle
  /-- The desk was halted automatically and no operator has cleared it since. -/
  automaticHalt : Bool := false

namespace Orchestrator

def riskManager (orchestrator : Orchestrator β) : RiskManager :=
  orchestrator.system.coordinator.riskManager

def deskHalted (orchestrator : Orchestrator β) : Bool := orchestrator.riskManager.deskHalted

def setRiskManager (orchestrator : Orchestrator β) (manager : RiskManager) : Orchestrator β :=
  { orchestrator with system := orchestrator.system.setRiskManager manager }

@[simp] theorem deskHalted_setRiskManager (orchestrator : Orchestrator β) (manager : RiskManager) :
    (orchestrator.setRiskManager manager).deskHalted = manager.deskHalted := rfl

/-- Check for a remote halt command from the dashboard; a read that raises is
logged and ignored. -/
def checkRemoteHalt (orchestrator : Orchestrator β) (readFails : Bool) : Orchestrator β :=
  if orchestrator.publisher = false ∨ readFails = true then orchestrator
  else
    let halted := StatePublisher.getHalt orchestrator.system.table
    if halted = true ∧ orchestrator.deskHalted = false then
      orchestrator.setRiskManager orchestrator.riskManager.haltDesk
    else if halted = false ∧ orchestrator.deskHalted = true then
      orchestrator.setRiskManager orchestrator.riskManager.unhaltDesk
    else orchestrator

/-- Run reconciliation periodically to detect ledger-broker drift. -/
def maybeReconcile (orchestrator : Orchestrator β)
    (brokerPositions : Except PyError (List BrokerPosition)) : Orchestrator β :=
  match orchestrator.reconciler with
  | none => orchestrator
  | some reconciler =>
      if orchestrator.tick - orchestrator.lastReconcileTick < orchestrator.reconcileInterval then
        orchestrator
      else
        let due := { orchestrator with lastReconcileTick := orchestrator.tick }
        match brokerPositions with
        | .error _ => due
        | .ok positions =>
            if (reconciler.reconcilePositions due.system.coordinator.ledgers positions).status =
                .fail then
              let failed := due.reconcilerCyclesFailed + 1
              if reconciler.shouldKillSwitch 0 failed = true then
                { due.setRiskManager due.riskManager.haltDesk with
                  reconcilerCyclesFailed := failed, automaticHalt := true }
              else { due with reconcilerCyclesFailed := failed }
            else { due with reconcilerCyclesFailed := 0 }

end Orchestrator

/-- What can happen around the tick loop. -/
inductive TickEvent (β : Type)
  /-- A tick opens and polls the remote flag. -/
  | beginTick (readFails : Bool)
  /-- The prices of the tick arrive, or the fetch raises. -/
  | pricesFetched (fetched : Bool)
  /-- A bot's intent goes through the coordinator. -/
  | execute (call : Call β)
  /-- The wake phase ends and the tick closes. -/
  | endTick (brokerPositions : Except PyError (List BrokerPosition))
  /-- A kill-switch order is filled. -/
  | liquidate (botId : BotId) (fill : Fill)
  /-- A kill-switch call reaches its halt. -/
  | killSwitch (botId : Option BotId)
  /-- The dashboard writes the flag. -/
  | setHalt (halted : Bool) (reason : String) (updatedAt : Int)
  /-- An operator clears the desk halt in the process. -/
  | unhaltDesk
  | registerBot (botId : BotId)
  | unregisterBot (botId : BotId)

namespace Orchestrator

def step (orchestrator : Orchestrator β) : TickEvent β → Orchestrator β
  | .beginTick readFails =>
      if orchestrator.phase = .idle then
        let polled := orchestrator.checkRemoteHalt readFails
        -- without bots the tick only publishes its snapshot
        if polled.bots = ∅ then { polled with tick := polled.tick + 1 }
        else { polled with phase := .fetching }
      else orchestrator
  | .pricesFetched fetched =>
      if orchestrator.phase = .fetching then
        if fetched = true then { orchestrator with phase := .waking }
        else { orchestrator with phase := .idle, tick := orchestrator.tick + 1 }
      else orchestrator
  | .execute call => { orchestrator with system := orchestrator.system.perform call }
  | .endTick brokerPositions =>
      if orchestrator.phase = .waking then
        { orchestrator.maybeReconcile brokerPositions with
          phase := .idle, tick := orchestrator.tick + 1 }
      else orchestrator
  | .liquidate botId fill =>
      match orchestrator.system.ledger? botId with
      | none => orchestrator
      | some ledger =>
          { orchestrator with
            system := orchestrator.system.setLedger botId (ledger.recordFill fill).1 }
  | .killSwitch botId =>
      { orchestrator.setRiskManager (orchestrator.riskManager.haltTarget botId) with
        automaticHalt := orchestrator.automaticHalt || (targetBot botId).isNone }
  | .setHalt halted reason updatedAt =>
      { orchestrator with
        system :=
          { orchestrator.system with
            table := StatePublisher.setHalt orchestrator.system.table halted reason updatedAt }
        automaticHalt := orchestrator.automaticHalt && halted }
  | .unhaltDesk =>
      { orchestrator.setRiskManager orchestrator.riskManager.unhaltDesk with automaticHalt := false }
  | .registerBot botId => { orchestrator with bots := insert botId orchestrator.bots }
  | .unregisterBot botId => { orchestrator with bots := orchestrator.bots.erase botId }

/-! ### What the parts of a tick change -/

/-- With a publisher and a readable flag, the poll copies the flag onto the desk. -/
theorem deskHalted_checkRemoteHalt {orchestrator : Orchestrator β}
    (configured : orchestrator.publisher = true) :
    (orchestrator.checkRemoteHalt false).deskHalted =
      StatePublisher.getHalt orchestrator.system.table := by
  unfold checkRemoteHalt
  simp only [configured, Bool.true_eq_false, Bool.false_eq_true, or_self, if_false]
  cases flag : StatePublisher.getHalt orchestrator.system.table <;>
    cases desk : orchestrator.deskHalted <;>
    simp [desk, RiskManager.haltDesk, RiskManager.unhaltDesk]

theorem checkRemoteHalt_failed (orchestrator : Orchestrator β) :
    orchestrator.checkRemoteHalt true = orchestrator := by
  unfold checkRemoteHalt
  rw [if_pos (Or.inr rfl)]

/-- The poll changes the risk manager only. -/
theorem checkRemoteHalt_cases (orchestrator : Orchestrator β) (readFails : Bool) :
    ∃ manager, orchestrator.checkRemoteHalt readFails = orchestrator.setRiskManager manager := by
  have unchanged : ∃ manager, orchestrator = orchestrator.setRiskManager manager :=
    ⟨orchestrator.riskManager, rfl⟩
  unfold checkRemoteHalt
  dsimp only
  split_ifs
  · exact unchanged
  · exact ⟨_, rfl⟩
  · exact ⟨_, rfl⟩
  · exact unchanged

/-- Reconciliation leaves the halt alone, or it halts the desk automatically. -/
theorem maybeReconcile_cases (orchestrator : Orchestrator β)
    (brokerPositions : Except PyError (List BrokerPosition)) :
    (orchestrator.maybeReconcile brokerPositions).publisher = orchestrator.publisher ∧
      (((orchestrator.maybeReconcile brokerPositions).deskHalted = orchestrator.deskHalted ∧
          (orchestrator.maybeReconcile brokerPositions).automaticHalt =
            orchestrator.automaticHalt) ∨
        ((orchestrator.maybeReconcile brokerPositions).deskHalted = true ∧
          (orchestrator.maybeReconcile brokerPositions).automaticHalt = true)) := by
  unfold maybeReconcile
  cases orchestrator.reconciler with
  | none => exact ⟨rfl, Or.inl ⟨rfl, rfl⟩⟩
  | some reconciler =>
      by_cases early :
          orchestrator.tick - orchestrator.lastReconcileTick < orchestrator.reconcileInterval
      · simp [early]
      · simp only [if_neg early]
        cases brokerPositions with
        | error error => exact ⟨rfl, Or.inl ⟨rfl, rfl⟩⟩
        | ok positions =>
            dsimp only
            split_ifs
            · exact ⟨rfl, Or.inr ⟨rfl, rfl⟩⟩
            · exact ⟨rfl, Or.inl ⟨rfl, rfl⟩⟩
            · exact ⟨rfl, Or.inl ⟨rfl, rfl⟩⟩

/-- Reconciliation changes its own counters and at most halts the desk. -/
theorem maybeReconcile_frame (orchestrator : Orchestrator β)
    (brokerPositions : Except PyError (List BrokerPosition)) :
    ∃ manager cyclesFailed lastTick automatic,
      orchestrator.maybeReconcile brokerPositions =
        { orchestrator.setRiskManager manager with
          reconcilerCyclesFailed := cyclesFailed
          lastReconcileTick := lastTick
          automaticHalt := automatic } := by
  obtain ⟨system, publisher, reconciler, cyclesFailed, lastTick, interval, bots, tick, phase,
    automatic⟩ := orchestrator
  unfold maybeReconcile
  cases reconciler with
  | none => exact ⟨system.coordinator.riskManager, _, _, _, rfl⟩
  | some reconciler =>
      dsimp only
      by_cases early : tick - lastTick < interval
      · simp only [if_pos early]
        exact ⟨system.coordinator.riskManager, _, _, _, rfl⟩
      · simp only [if_neg early]
        cases brokerPositions with
        | error error => exact ⟨system.coordinator.riskManager, _, _, _, rfl⟩
        | ok positions =>
            dsimp only
            split_ifs
            · exact ⟨system.coordinator.riskManager.haltDesk, _, _, _, rfl⟩
            · exact ⟨system.coordinator.riskManager, _, _, _, rfl⟩
            · exact ⟨system.coordinator.riskManager, _, _, _, rfl⟩

/-- Reconciliation touches no ledger. -/
@[simp] theorem ledger?_maybeReconcile (orchestrator : Orchestrator β)
    (brokerPositions : Except PyError (List BrokerPosition)) (botId : BotId) :
    (orchestrator.maybeReconcile brokerPositions).system.ledger? botId =
      orchestrator.system.ledger? botId := by
  obtain ⟨manager, cyclesFailed, lastTick, automatic, same⟩ :=
    orchestrator.maybeReconcile_frame brokerPositions
  rw [same]
  rfl

/-- A reconciliation whose position check passes halts nothing. -/
theorem deskHalted_maybeReconcile_of_pass {orchestrator : Orchestrator β} {reconciler : Reconciler}
    {positions : List BrokerPosition} (configured : orchestrator.reconciler = some reconciler)
    (passes : (reconciler.reconcilePositions orchestrator.system.coordinator.ledgers
      positions).status = .pass) :
    (orchestrator.maybeReconcile (.ok positions)).deskHalted = orchestrator.deskHalted := by
  unfold maybeReconcile
  simp only [configured]
  split_ifs with early fails
  · rfl
  · rw [passes] at fails
    cases fails
  · rw [passes] at fails
    cases fails
  · rfl

/-- Only a registration puts a new ledger in place. -/
theorem registered_of_step {orchestrator : Orchestrator β} {event : TickEvent β} {botId : BotId}
    {after : Ledger} (found : (orchestrator.step event).system.ledger? botId = some after) :
    ∃ before, orchestrator.system.ledger? botId = some before := by
  cases event with
  | beginTick readFails =>
      obtain ⟨manager, same⟩ := orchestrator.checkRemoteHalt_cases readFails
      simp only [step, same] at found
      split_ifs at found <;> exact ⟨after, found⟩
  | pricesFetched fetched =>
      simp only [step] at found
      split_ifs at found <;> exact ⟨after, found⟩
  | execute call => exact System.registered_of_perform found
  | endTick brokerPositions =>
      simp only [step] at found
      split_ifs at found
      · exact ⟨after, (ledger?_maybeReconcile _ _ _).symm.trans found⟩
      · exact ⟨after, found⟩
  | liquidate other fill =>
      simp only [step] at found
      cases registered : orchestrator.system.ledger? other with
      | none =>
          rw [registered] at found
          exact ⟨after, found⟩
      | some ledger =>
          simp only [registered, System.ledger?_setLedger] at found
          split_ifs at found with own
          · exact ⟨ledger, own ▸ registered⟩
          · exact ⟨after, found⟩
  | killSwitch botId => exact ⟨after, found⟩
  | setHalt halted reason updatedAt => exact ⟨after, found⟩
  | unhaltDesk => exact ⟨after, found⟩
  | registerBot botId => exact ⟨after, found⟩
  | unregisterBot botId => exact ⟨after, found⟩

/-- The publisher is configured once. -/
@[simp] theorem publisher_step (orchestrator : Orchestrator β) (event : TickEvent β) :
    (orchestrator.step event).publisher = orchestrator.publisher := by
  cases event with
  | beginTick readFails =>
      obtain ⟨manager, same⟩ := orchestrator.checkRemoteHalt_cases readFails
      simp only [step, same]
      split_ifs <;> rfl
  | pricesFetched fetched =>
      simp only [step]
      split_ifs <;> rfl
  | endTick brokerPositions =>
      simp only [step]
      split_ifs
      · exact (orchestrator.maybeReconcile_cases brokerPositions).1
      · rfl
  | liquidate botId fill =>
      simp only [step]
      split <;> rfl
  | execute call => rfl
  | killSwitch botId => rfl
  | setHalt halted reason updatedAt => rfl
  | unhaltDesk => rfl
  | registerBot botId => rfl
  | unregisterBot botId => rfl

end Orchestrator

end TradingStrands
