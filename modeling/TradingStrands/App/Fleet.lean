import TradingStrands.App.BrokerFactory
import TradingStrands.App.Strategies
import TradingStrands.Foundation.Runs
import TradingStrands.Orchestrator.Engine
import Mathlib.Algebra.BigOperators.Ring.Finset

/-!
Owns a deployment: strategies split over processes that share one table, each
process with its own tick loop, and the periodic reconciliation across them.
A process compares the ledgers it happens to hold, of whatever accounts, with
the one account of its market-data broker. On books that are right the check
passes exactly when the ledgers of other accounts in the process make up for
those of the market-data account that are missing from it.

Does not own: the market-data store, which answers prices only.
-/

namespace TradingStrands

open TradingStrands.Foundation LedgerStore

/-- Who trades where: the credentials, the organisation of each strategy's bot
and the process it runs in. -/
structure Deployment where
  globalEnv : GlobalEnv
  getSecretValue : Option (String → SecretRead) := none
  orgs : Finset OrgId
  bots : Finset BotId
  orgOf : BotId → OrgId
  processOf : BotId → Nat

/-- The processes and the table they share. -/
structure Fleet where
  table : Table := Dict.empty
  process : Nat → Orchestrator AlpacaAdapter

inductive FleetEvent
  /-- Anything the tick loop of a process does. -/
  | within (process : Nat) (event : TickEvent AlpacaAdapter)
  /-- A strategy is started or resumed; a registration can raise after its
  ledger is in place. -/
  | register (botId : BotId) (capital : Decimal) (completes : Bool)
  /-- A strategy is paused: the poll of its process unloads it. -/
  | unload (botId : BotId)
  /-- A process starts anew, as the task of a single strategy does. -/
  | restart (process : Nat)

namespace Orchestrator

variable {β : Type}

/-- Register a strategy that is not registered yet. -/
def loadStrategy (orchestrator : Orchestrator β) (botId : BotId) (capital : Decimal)
    (completes : Bool) : Orchestrator β :=
  if botId ∈ orchestrator.bots then orchestrator
  else
    match orchestrator.system.restoredLedger botId capital with
    | .error _ => orchestrator
    | .ok ledger =>
        { orchestrator with
          system := orchestrator.system.setLedger botId ledger
          bots := if completes = true then insert botId orchestrator.bots else orchestrator.bots }

/-- Unregister a strategy that is no longer active. -/
def unloadStrategy (orchestrator : Orchestrator β) (botId : BotId) : Orchestrator β :=
  if botId ∈ orchestrator.bots then
    { orchestrator with
      system := orchestrator.system.unload botId, bots := orchestrator.bots.erase botId }
  else orchestrator

/-- A new process of the same configuration. -/
def restarted (orchestrator : Orchestrator β) : Orchestrator β :=
  { system :=
      { coordinator :=
          { defaultBroker := orchestrator.system.coordinator.defaultBroker
            ledgerStore := orchestrator.system.coordinator.ledgerStore
            haltStore := orchestrator.system.coordinator.haltStore }
        table := orchestrator.system.table }
    publisher := orchestrator.publisher
    reconciler := orchestrator.reconciler
    reconcileInterval := orchestrator.reconcileInterval }

/-- The end of this tick runs the position check. -/
structure ReconcilesNow (orchestrator : Orchestrator β) (reconciler : Reconciler) : Prop where
  waking : orchestrator.phase = .waking
  configured : orchestrator.reconciler = some reconciler
  due : orchestrator.reconcileInterval ≤ orchestrator.tick - orchestrator.lastReconcileTick

end Orchestrator

namespace Fleet

/-- A process as it sees the shared table. -/
def opened (fleet : Fleet) (process : Nat) : Orchestrator AlpacaAdapter :=
  { fleet.process process with
    system := { (fleet.process process).system with table := fleet.table } }

/-- Put a process and its table back. -/
def put (fleet : Fleet) (process : Nat) (orchestrator : Orchestrator AlpacaAdapter) : Fleet :=
  ⟨orchestrator.system.table, Function.update fleet.process process orchestrator⟩

/-- The ledger of a bot in a process. -/
def ledger? (fleet : Fleet) (process : Nat) (botId : BotId) : Option Ledger :=
  (fleet.process process).system.ledger? botId

/-- What a process holds for a bot. -/
def held (fleet : Fleet) (process : Nat) (botId : BotId) (symbol : Symbol) : Decimal :=
  ((fleet.ledger? process botId).map fun ledger => ledger.netQuantity symbol).getD 0

end Fleet

namespace Deployment

variable (deployment : Deployment)

/-- The account of an organisation is the account of its market-data broker,
which is built from the global credentials. -/
def OnMarketAccount (orgId : OrgId) : Prop :=
  makeBrokerFactory deployment.globalEnv deployment.getSecretValue orgId =
    .ok deployment.globalEnv.adapter

instance (orgId : OrgId) : Decidable (deployment.OnMarketAccount orgId) := by
  unfold OnMarketAccount
  infer_instance

def step (fleet : Fleet) : FleetEvent → Fleet
  | .within process event => fleet.put process ((fleet.opened process).step event)
  | .register botId capital completes =>
      let process := deployment.processOf botId
      fleet.put process ((fleet.opened process).loadStrategy botId capital completes)
  | .unload botId =>
      let process := deployment.processOf botId
      fleet.put process ((fleet.opened process).unloadStrategy botId)
  | .restart process => fleet.put process (fleet.opened process).restarted

/-- What is booked for a bot: the positions of its ledger, or of its stored
snapshot while no process holds one. -/
def booked (fleet : Fleet) (botId : BotId) (symbol : Symbol) : Decimal :=
  match fleet.ledger? (deployment.processOf botId) botId with
  | some ledger => ledger.netQuantity symbol
  | none =>
      match loadSnapshot fleet.table botId with
      | .ok (some ledger) => ledger.netQuantity symbol
      | _ => 0

/-- Every ledger belongs to a bot of the deployment and is where the split puts it. -/
def Placed (fleet : Fleet) : Prop :=
  ∀ process botId ledger, fleet.ledger? process botId = some ledger →
    botId ∈ deployment.bots ∧ deployment.processOf botId = process

/-- Registrations are of strategies of the deployment, and an account that is
read holds exactly what is booked for the bots that trade through it. -/
def Admissible (fleet : Fleet) : FleetEvent → Prop
  | .within _ (.endTick (.ok positions)) =>
      ∀ orgId ∈ deployment.orgs, deployment.OnMarketAccount orgId →
        ∀ symbol, balance (positions.map BrokerPosition.posting) symbol =
          ∑ botId ∈ deployment.bots with deployment.OnMarketAccount (deployment.orgOf botId),
            deployment.booked fleet botId symbol
  | .register botId _ _ => botId ∈ deployment.bots
  | _ => True

/-- A position check that runs passes, and halts nothing. -/
def NoFalseAlarm (fleet : Fleet) : FleetEvent → Prop
  | .within process (.endTick (.ok positions)) =>
      ∀ reconciler, (fleet.process process).ReconcilesNow reconciler →
        (reconciler.reconcilePositions (fleet.process process).system.coordinator.ledgers
            positions).status = .pass ∧
          ((deployment.step fleet (.within process (.endTick (.ok positions)))).process
            process).deskHalted = (fleet.process process).deskHalted
  | _ => True

/-- Where some organisation trades through the market-data account: what the
process holds for bots of other accounts is what is booked for bots of this
account that the process does not hold. Where none does, the account happens to
hold what the process holds. -/
def Complete (fleet : Fleet) : FleetEvent → Prop
  | .within process (.endTick (.ok positions)) =>
      ∀ reconciler, (fleet.process process).ReconcilesNow reconciler → ∀ symbol,
        if ∃ orgId ∈ deployment.orgs, deployment.OnMarketAccount orgId then
          ∑ botId ∈ deployment.bots with ¬ deployment.OnMarketAccount (deployment.orgOf botId),
              fleet.held process botId symbol =
            ∑ botId ∈ deployment.bots with
              deployment.OnMarketAccount (deployment.orgOf botId) ∧
                fleet.ledger? process botId = none,
              deployment.booked fleet botId symbol
        else
          ∑ botId ∈ deployment.bots, fleet.held process botId symbol =
            balance (positions.map BrokerPosition.posting) symbol
  | _ => True

/-! ### Where the ledgers are -/

theorem ledger?_opened (fleet : Fleet) (process : Nat) (botId : BotId) :
    (fleet.opened process).system.ledger? botId = fleet.ledger? process botId := rfl

theorem ledger?_put (fleet : Fleet) (process other : Nat)
    (orchestrator : Orchestrator AlpacaAdapter) (botId : BotId) :
    (fleet.put process orchestrator).ledger? other botId =
      if other = process then orchestrator.system.ledger? botId
      else fleet.ledger? other botId := by
  unfold Fleet.put Fleet.ledger?
  by_cases same : other = process
  · subst same
    simp only [Function.update_self, if_true]
  · simp only [Function.update_of_ne same, if_neg same]

theorem ledger?_loadStrategy {β : Type} {orchestrator : Orchestrator β} {botId other : BotId}
    {capital : Decimal} {completes : Bool} {after : Ledger}
    (found : (orchestrator.loadStrategy botId capital completes).system.ledger? other =
      some after) : other = botId ∨ orchestrator.system.ledger? other = some after := by
  unfold Orchestrator.loadStrategy at found
  split at found
  next => exact Or.inr found
  next =>
    cases restored : orchestrator.system.restoredLedger botId capital with
    | error error =>
        rw [restored] at found
        exact Or.inr found
    | ok ledger =>
        simp only [restored, System.ledger?_setLedger] at found
        split at found
        next same => exact Or.inl same
        next => exact Or.inr found

theorem ledger?_unloadStrategy {β : Type} {orchestrator : Orchestrator β} {botId other : BotId}
    {after : Ledger}
    (found : (orchestrator.unloadStrategy botId).system.ledger? other = some after) :
    orchestrator.system.ledger? other = some after := by
  unfold Orchestrator.unloadStrategy at found
  split at found
  next =>
    simp only [System.ledger?_unload] at found
    split at found
    next => cases found
    next => exact found
  next => exact found

variable {deployment}

/-- Whatever a process does, its ledgers stay those of its own bots. -/
theorem Placed.step {fleet : Fleet} {event : FleetEvent} (placed : deployment.Placed fleet)
    (admissible : deployment.Admissible fleet event) :
    deployment.Placed (deployment.step fleet event) := by
  -- a process put back keeps the split if each of its ledgers was there or belongs there
  have putBack : ∀ process orchestrator, (∀ botId after,
      orchestrator.system.ledger? botId = some after →
        (∃ before, fleet.ledger? process botId = some before) ∨
          (botId ∈ deployment.bots ∧ deployment.processOf botId = process)) →
      deployment.Placed (fleet.put process orchestrator) := by
    intro process orchestrator belongs other botId ledger found
    rw [ledger?_put] at found
    split at found
    next same =>
      subst same
      rcases belongs botId ledger found with ⟨before, present⟩ | own
      · exact placed other botId before present
      · exact own
    next => exact placed other botId ledger found
  cases event with
  | within process event =>
      refine putBack process ((fleet.opened process).step event) fun botId after found => ?_
      obtain ⟨before, present⟩ := Orchestrator.registered_of_step found
      exact Or.inl ⟨before, ledger?_opened fleet process botId ▸ present⟩
  | register botId capital completes =>
      refine putBack (deployment.processOf botId) _ fun other after found => ?_
      rcases ledger?_loadStrategy found with rfl | present
      · exact Or.inr ⟨admissible, rfl⟩
      · exact Or.inl ⟨after, ledger?_opened fleet _ other ▸ present⟩
  | unload botId =>
      refine putBack (deployment.processOf botId) _ fun other after found => ?_
      have present := ledger?_unloadStrategy found
      exact Or.inl ⟨after, ledger?_opened fleet _ other ▸ present⟩
  | restart process =>
      have nothing : ∀ other, (fleet.opened process).restarted.system.ledger? other = none :=
        fun _ => rfl
      refine putBack process (fleet.opened process).restarted fun other after found => ?_
      rw [nothing] at found
      cases found

/-- The check adds up what the process holds over the bots of the deployment. -/
theorem Placed.balance_ledgers {fleet : Fleet} (placed : deployment.Placed fleet) (process : Nat)
    (symbol : Symbol) :
    balance (ledgerPostings (fleet.process process).system.coordinator.ledgers) symbol =
      ∑ botId ∈ deployment.bots, fleet.held process botId symbol := by
  unfold ledgerPostings
  rw [balance_flatMap]
  exact Dict.sumBy_eq_sum (fun ledger => ledger.netQuantity symbol)
    fun botId ledger found => (placed process botId ledger found).1

/-- A process holds exactly what is booked for the bots whose ledger it has. -/
theorem Placed.held_eq {fleet : Fleet} (placed : deployment.Placed fleet) (process : Nat)
    (botId : BotId) (symbol : Symbol) :
    fleet.held process botId symbol =
      if fleet.ledger? process botId = none then 0 else deployment.booked fleet botId symbol := by
  unfold Fleet.held
  cases found : fleet.ledger? process botId with
  | none => rfl
  | some ledger =>
      have own := (placed process botId ledger found).2
      unfold booked
      rw [own, found]
      rfl

/-! ### One reconciliation -/

/-- The market-data account against the ledgers of one process. -/
theorem Placed.balanced_iff {fleet : Fleet} (placed : deployment.Placed fleet) (process : Nat)
    (symbol : Symbol) :
    ∑ botId ∈ deployment.bots, fleet.held process botId symbol =
        ∑ botId ∈ deployment.bots with deployment.OnMarketAccount (deployment.orgOf botId),
          deployment.booked fleet botId symbol ↔
      ∑ botId ∈ deployment.bots with ¬ deployment.OnMarketAccount (deployment.orgOf botId),
          fleet.held process botId symbol =
        ∑ botId ∈ deployment.bots with
          deployment.OnMarketAccount (deployment.orgOf botId) ∧
            fleet.ledger? process botId = none,
          deployment.booked fleet botId symbol := by
  -- both sides, split into the bots of this account and the others
  have heldSplit := Finset.sum_filter_add_sum_filter_not deployment.bots
    (fun botId => deployment.OnMarketAccount (deployment.orgOf botId))
    (fun botId => fleet.held process botId symbol)
  -- of the bots of this account, those whose ledger is here are held as booked
  have bookedSplit := Finset.sum_filter_add_sum_filter_not
    (deployment.bots.filter fun botId => deployment.OnMarketAccount (deployment.orgOf botId))
    (fun botId => fleet.ledger? process botId = none)
    (fun botId => deployment.booked fleet botId symbol)
  have heldHere : ∑ botId ∈ deployment.bots with
        deployment.OnMarketAccount (deployment.orgOf botId), fleet.held process botId symbol =
      ∑ botId ∈ (deployment.bots.filter fun botId =>
          deployment.OnMarketAccount (deployment.orgOf botId)).filter
        (fun botId => ¬ fleet.ledger? process botId = none),
        deployment.booked fleet botId symbol := by
    rw [Finset.sum_filter (fun botId => ¬ fleet.ledger? process botId = none)]
    refine Finset.sum_congr rfl fun botId _ => ?_
    rw [placed.held_eq, ite_not]
  rw [Finset.filter_filter] at bookedSplit
  rw [← heldSplit, ← bookedSplit, heldHere]
  constructor
  · intro same
    linarith
  · intro same
    linarith

theorem noFalseAlarm_iff {fleet : Fleet} {event : FleetEvent} (placed : deployment.Placed fleet)
    (admissible : deployment.Admissible fleet event) :
    deployment.NoFalseAlarm fleet event ↔ deployment.Complete fleet event := by
  cases event with
  | within process event =>
      cases event with
      | endTick brokerPositions =>
          cases brokerPositions with
          | error error => exact Iff.rfl
          | ok positions =>
              refine forall_congr' fun reconciler => forall_congr' fun now => ?_
              have halts : (reconciler.reconcilePositions
                    (fleet.process process).system.coordinator.ledgers positions).status = .pass →
                  ((deployment.step fleet (.within process (.endTick (.ok positions)))).process
                    process).deskHalted = (fleet.process process).deskHalted := by
                intro passes
                have waking : (fleet.opened process).phase = .waking := now.waking
                have configured : (fleet.opened process).reconciler = some reconciler :=
                  now.configured
                unfold step Fleet.put
                simp only [Function.update_self, Orchestrator.step, if_pos waking]
                exact Orchestrator.deskHalted_maybeReconcile_of_pass configured passes
              rw [and_iff_left_of_imp halts, Reconciler.reconcilePositions_pass_iff]
              refine forall_congr' fun symbol => ?_
              rw [placed.balance_ledgers]
              split
              next onMarket =>
                obtain ⟨orgId, member, account⟩ := onMarket
                rw [admissible orgId member account symbol]
                exact placed.balanced_iff process symbol
              next => exact Iff.rfl
      | beginTick readFails => exact Iff.rfl
      | pricesFetched fetched => exact Iff.rfl
      | execute call => exact Iff.rfl
      | liquidate botId fill => exact Iff.rfl
      | killSwitch botId => exact Iff.rfl
      | setHalt halted reason updatedAt => exact Iff.rfl
      | unhaltDesk => exact Iff.rfl
      | registerBot botId => exact Iff.rfl
      | unregisterBot botId => exact Iff.rfl
  | register botId capital completes => exact Iff.rfl
  | unload botId => exact Iff.rfl
  | restart process => exact Iff.rfl

/-! ### Runs -/

/-- Two strategies of one organisation in one process, on the global credentials. -/
def twoBots : Deployment :=
  { globalEnv := { alpacaApiKey := "key", alpacaSecretKey := "secret" }
    orgs := {"org"}
    bots := {"a", "b"}
    orgOf := fun _ => "org"
    processOf := fun _ => 0 }

/-- A ledger that holds one share. -/
def oneShare : Ledger :=
  ((Ledger.ofCapital 1000).recordFill ⟨"AAPL", .buy, 1, 100, {}⟩).1

/-- The first strategy has traded before; the next tick to end is reconciled. -/
def beforeReconcile : Fleet :=
  { table := saveSnapshot Dict.empty "a" oneShare 0
    process := fun _ =>
      { system := { coordinator := { ledgerStore := some {} } }, reconciler := some {}, tick := 59 } }

/-- A tick that ends with the account holding one share. -/
def reconciledTick : List FleetEvent :=
  [.within 0 (.beginTick true), .within 0 (.pricesFetched true),
    .within 0 (.endTick (.ok [⟨"AAPL", 1, 100, 100⟩]))]

private theorem placed_beforeReconcile : twoBots.Placed beforeReconcile := by
  intro process botId ledger found
  have nothing : beforeReconcile.ledger? process botId = none := rfl
  rw [nothing] at found
  cases found

/-- The account holds what is booked when that is one share of the first bot. -/
private theorem account_holds_booked {fleet : Fleet}
    (first : ∀ symbol, twoBots.booked fleet "a" symbol = oneShare.netQuantity symbol)
    (second : fleet.ledger? 0 "b" = some (Ledger.ofCapital 500)) (symbol : Symbol) :
    balance ([⟨"AAPL", 1, 100, 100⟩].map BrokerPosition.posting) symbol =
      ∑ botId ∈ twoBots.bots with twoBots.OnMarketAccount (twoBots.orgOf botId),
        twoBots.booked fleet botId symbol := by
  have both : (twoBots.bots.filter fun botId =>
      twoBots.OnMarketAccount (twoBots.orgOf botId)) = {"a", "b"} := by decide +kernel
  have fresh : twoBots.booked fleet "b" symbol = 0 := by
    unfold booked
    rw [show fleet.ledger? (twoBots.processOf "b") "b" = _ from second]
    exact Ledger.netQuantity_ofCapital 500 symbol
  have postings : oneShare.openPositions.map Position.posting = [("AAPL", 1)] := by
    decide +kernel
  rw [both, Finset.sum_pair (by decide), first, fresh, add_zero]
  unfold Ledger.netQuantity
  rw [postings]
  rfl

end Deployment

end TradingStrands
