import TradingStrands.Halt.Store
import TradingStrands.LedgerStore.Store
import TradingStrands.Risk.Manager

/-!
Owns the trade coordinator: broker lookup with its per-organisation cache, the
price fetch, order normalisation, recording a fill, and `execute`.

`execute` is a coroutine that gives up control while it waits for quotes and
while it waits for the broker's answer. It is cut at these two points into
`executeBegin`, `executePriced` and `executeAnswered`, each atomic, so that other
calls can run between them; `execute` runs the three without interruption.
Everything the call reads from outside (table reads that may fail, what the
broker factory, the quotes and the broker answer, clocks and random suffixes)
is an input. Metrics are not modelled.
-/

namespace TradingStrands

open TradingStrands.Foundation

variable {β : Type}

/-- The coordinator; `β` is the type of broker adapters. -/
structure TradeCoordinator (β : Type) where
  brokerCache : Dict OrgId β := Dict.empty
  riskManager : RiskManager := {}
  ledgers : Dict BotId Ledger := Dict.empty
  defaultBroker : Option β := none
  ledgerStore : Option LedgerStore := none
  /-- Whether a halt store over the shared table is configured. -/
  haltStore : Bool := false

/-- A coordinator and the table its stores share. -/
structure System (β : Type) where
  coordinator : TradeCoordinator β
  table : Table := Dict.empty

def System.ledger? (system : System β) (botId : BotId) : Option Ledger :=
  system.coordinator.ledgers.get? botId

def System.setLedger (system : System β) (botId : BotId) (ledger : Ledger) : System β :=
  { system with
    coordinator :=
      { system.coordinator with ledgers := system.coordinator.ledgers.set botId ledger } }

/-- Result of processing a trade intent through the full pipeline. -/
structure ExecutionResult where
  intent : TradeIntent
  riskDecision : Option RiskDecision := none
  orderResult : Option OrderResult := none
deriving DecidableEq

def ExecutionResult.approved (result : ExecutionResult) : Bool :=
  match result.riskDecision with
  | none => result.orderResult.isSome
  | some decision => decision.approved

namespace TradeCoordinator

/-- The broker of an organisation, built on first use. The factory either
builds one or raises with the given text. -/
def brokerFor (coordinator : TradeCoordinator β) (orgId : OrgId) (factory : Except String β) :
    TradeCoordinator β × Except PyError β :=
  match coordinator.brokerCache.get? orgId with
  | some cached => (coordinator, .ok cached)
  | none =>
      match factory with
      | .error text =>
          (coordinator,
            .error (.brokerUnavailable ("broker unavailable for org " ++ orgId ++ ": " ++ text)))
      | .ok broker =>
          ({ coordinator with brokerCache := coordinator.brokerCache.set orgId broker }, .ok broker)

/-- Drop the cached broker of an organisation. -/
def invalidateBroker (coordinator : TradeCoordinator β) (orgId : OrgId) : TradeCoordinator β :=
  { coordinator with brokerCache := coordinator.brokerCache.erase orgId }

end TradeCoordinator

/-- Whether the two halt reads of a call raise. -/
structure HaltReads where
  effectiveFails : Bool := false
  reasonFails : Option PyError := none

/-- The rejection of the halt gate, if it rejects. A failing read of the flags
counts as not halted; a failing read of the reason raises. -/
def haltGate (system : System β) (reads : HaltReads) (intent : TradeIntent) :
    Except PyError (Option ExecutionResult) :=
  if system.coordinator.haltStore = true ∧ reads.effectiveFails = false ∧
      HaltStore.isEffectiveHalted system.table intent.orgId = true then
    match reads.reasonFails with
    | some error => .error error
    | none =>
        let reason := (HaltStore.getEffectiveReason system.table intent.orgId).getD "desk halted"
        .ok (some
          { intent, riskDecision := some (RiskManager.reject intent ("halted: " ++ reason)) })
  else .ok none

/-- The symbols a call prices: the intent's and those of the open positions. -/
def quotedSymbols (intent : TradeIntent) (ledger : Ledger) : List Symbol :=
  (intent.symbol :: ledger.openPositions.map Position.symbol).dedup

/-- Fetch the prices of all symbols. A raising quote raises, and a quote that
carries no usable price leaves its symbol out. -/
def getMarketPrices (quote : Symbol → Except PyError (Option Decimal)) :
    List Symbol → Except PyError PriceMap
  | [] => .ok fun _ => none
  | symbol :: rest =>
      match quote symbol with
      | .error error => .error error
      | .ok price =>
          match getMarketPrices quote rest with
          | .error error => .error error
          | .ok prices => .ok fun other => if other = symbol then price else prices other

/-- Normalize a trade intent into a canonical order. -/
def intentToOrder (intent : TradeIntent) : OrderRequest :=
  { symbol := intent.symbol, side := intentToSide intent.action, quantity := intent.quantity,
    orderType := .market }

/-- The fill an order result reports. -/
def fillOf (intent : TradeIntent) (result : OrderResult) : Fill :=
  { symbol := intent.symbol, side := intentToSide intent.action,
    quantity := result.filledQuantity, price := result.filledPrice, fees := result.fees }

/-- Book a fill in a bot's ledger, through the ledger store if there is one. -/
def bookFill (system : System β) (botId : BotId) (ledger : Ledger) (fill : Fill)
    (write : LedgerStore.WriteEnv) : System β × Except PyError Unit :=
  match system.coordinator.ledgerStore with
  | none => (system.setLedger botId (ledger.recordFill fill).1, (ledger.recordFill fill).2)
  | some store =>
      let recorded := store.recordAndPersist system.table botId ledger fill write
      ({ system.setLedger botId recorded.1 with table := recorded.2.1 }, recorded.2.2)

/-- Record a broker fill into the bot's ledger and persist it. -/
def recordFill (system : System β) (intent : TradeIntent) (result : OrderResult)
    (write : LedgerStore.WriteEnv) : System β × Except PyError Unit :=
  if result.filledQuantity ≤ 0 then (system, .ok ())
  else
    match system.ledger? intent.botId with
    | none => (system, .ok ())
    | some ledger => bookFill system intent.botId ledger (fillOf intent result) write

/-! ### The three atomic parts of a call -/

/-- Where a call stands when it first gives up control. -/
inductive Begun (β : Type)
  | raised (error : PyError)
  | returned (result : ExecutionResult)
  | quoting (broker : β) (symbols : List Symbol)

/-- From the call to the price fetch. -/
def executeBegin (system : System β) (intent : TradeIntent) (reads : HaltReads)
    (factory : Except String β) : System β × Begun β :=
  match system.ledger? intent.botId with
  | none => (system, .raised (.valueError [.text ("unknown bot: " ++ intent.botId)]))
  | some ledger =>
      -- HOLD and NOOP both short-circuit
      if intent.action = .hold ∨ intent.action = .noop then
        (system, .returned { intent, riskDecision := some (RiskManager.approve intent) })
      else
        match haltGate system reads intent with
        | .error error => (system, .raised error)
        | .ok (some rejected) => (system, .returned rejected)
        | .ok none =>
            match system.coordinator.brokerFor intent.orgId factory with
            | (coordinator, .ok broker) =>
                ({ system with coordinator }, .quoting broker (quotedSymbols intent ledger))
            | (coordinator, .error (.brokerUnavailable text)) =>
                ({ system with coordinator },
                  .returned { intent, riskDecision := some (RiskManager.reject intent text) })
            | (coordinator, .error error) => ({ system with coordinator }, .raised error)

/-- Where a call stands once the prices are in. -/
inductive Priced
  | raised (error : PyError)
  | rejected (result : ExecutionResult)
  | submitting (order : OrderRequest) (decision : RiskDecision)

/-- From the prices to the submission of the order. -/
def executePriced (manager : RiskManager) (intent : TradeIntent) (ledger : Ledger)
    (prices : Except PyError PriceMap) : Priced :=
  match prices with
  | .error error => .raised error
  | .ok marketPrices =>
      let decision := manager.evaluate intent ledger marketPrices
      if decision.approved = true then .submitting (intentToOrder intent) decision
      else .rejected { intent, riskDecision := some decision }

/-- From the broker's answer to the end of the call. -/
def executeAnswered (system : System β) (intent : TradeIntent) (decision : RiskDecision)
    (answer : Except PyError OrderResult) (write : LedgerStore.WriteEnv) :
    System β × Except PyError ExecutionResult :=
  match answer with
  | .error error => (system, .error error)
  | .ok result =>
      let recorded := recordFill system intent result write
      (recorded.1,
        match recorded.2 with
        | .error error => .error error
        | .ok () =>
            .ok { intent, riskDecision := some decision, orderResult := some result })

/-! ### The whole call -/

/-- Everything one call reads from outside. -/
structure CallEnv (β : Type) where
  reads : HaltReads := {}
  factory : Except String β
  quote : β → Symbol → Except PyError (Option Decimal)
  submit : β → OrderRequest → Except PyError OrderResult
  write : LedgerStore.WriteEnv := {}

/-- What a call came to, and the order that reached a broker. -/
structure Executed (β : Type) where
  outcome : Except PyError ExecutionResult
  submitted : Option (β × OrderRequest) := none

/-- Process a trade intent through the full pipeline. -/
def execute (system : System β) (env : CallEnv β) (intent : TradeIntent) :
    System β × Executed β :=
  match executeBegin system intent env.reads env.factory with
  | (after, .raised error) => (after, ⟨.error error, none⟩)
  | (after, .returned result) => (after, ⟨.ok result, none⟩)
  | (after, .quoting broker symbols) =>
      match after.ledger? intent.botId with
      | none => (after, ⟨.error (.keyError intent.botId), none⟩)
      | some ledger =>
          match executePriced after.coordinator.riskManager intent ledger
              (getMarketPrices (env.quote broker) symbols) with
          | .raised error => (after, ⟨.error error, none⟩)
          | .rejected result => (after, ⟨.ok result, none⟩)
          | .submitting order decision =>
              let finished :=
                executeAnswered after intent decision (env.submit broker order) env.write
              (finished.1, ⟨finished.2, some (broker, order)⟩)

end TradingStrands
