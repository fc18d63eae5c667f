import TradingStrands.Coordinator.Coordinator

/-!
Owns what one whole `execute` call can do, so that no proof about runs opens its
definition. A call either submits no order and changes at most the broker cache,
or it has passed every gate (`Submits`), submits exactly the normalized intent,
and changes at most the ledger of its bot by the one fill the answer reports.
-/

namespace TradingStrands

open TradingStrands.Foundation

variable {β : Type}

namespace System

/-- The system with another broker cache. -/
def setCache (system : System β) (cache : Dict OrgId β) : System β :=
  { system with coordinator := { system.coordinator with brokerCache := cache } }

@[simp] theorem ledger?_setCache (system : System β) (cache : Dict OrgId β) (botId : BotId) :
    (system.setCache cache).ledger? botId = system.ledger? botId := rfl

@[simp] theorem riskManager_setCache (system : System β) (cache : Dict OrgId β) :
    (system.setCache cache).coordinator.riskManager = system.coordinator.riskManager := rfl

@[simp] theorem setCache_self (system : System β) :
    system.setCache system.coordinator.brokerCache = system := rfl

/-- The system with another risk manager. -/
def setRiskManager (system : System β) (manager : RiskManager) : System β :=
  { system with coordinator := { system.coordinator with riskManager := manager } }

@[simp] theorem ledger?_setRiskManager (system : System β) (manager : RiskManager)
    (botId : BotId) : (system.setRiskManager manager).ledger? botId = system.ledger? botId := rfl

theorem ledger?_setLedger (system : System β) (botId other : BotId) (ledger : Ledger) :
    (system.setLedger botId ledger).ledger? other =
      if other = botId then some ledger else system.ledger? other :=
  Dict.get?_set _ _ _ _

end System

/-! ### Broker lookup -/

theorem brokerFor_coordinator (coordinator : TradeCoordinator β) (orgId : OrgId)
    (factory : Except String β) :
    ∃ cache, (coordinator.brokerFor orgId factory).1 = { coordinator with brokerCache := cache } := by
  unfold TradeCoordinator.brokerFor
  cases coordinator.brokerCache.get? orgId with
  | some cached => exact ⟨_, rfl⟩
  | none => cases factory <;> exact ⟨_, rfl⟩

/-- The system once the call has looked its broker up. -/
def afterLookup (system : System β) (env : CallEnv β) (intent : TradeIntent) : System β :=
  { system with coordinator := (system.coordinator.brokerFor intent.orgId env.factory).1 }

theorem afterLookup_eq (system : System β) (env : CallEnv β) (intent : TradeIntent) :
    ∃ cache, afterLookup system env intent = system.setCache cache := by
  obtain ⟨cache, same⟩ := brokerFor_coordinator system.coordinator intent.orgId env.factory
  exact ⟨cache, by unfold afterLookup System.setCache; rw [same]⟩

/-! ### The gates of a call -/

/-- A price map that was fetched holds what the broker quoted. -/
theorem getMarketPrices_apply {quote : Symbol → Except PyError (Option Decimal)}
    {symbols : List Symbol} {prices : PriceMap} (priced : getMarketPrices quote symbols = .ok prices)
    {symbol : Symbol} (member : symbol ∈ symbols) : quote symbol = .ok (prices symbol) := by
  induction symbols generalizing prices with
  | nil => simp at member
  | cons head tail inductionHypothesis =>
      unfold getMarketPrices at priced
      cases quoted : quote head with
      | error error => simp [quoted] at priced
      | ok price =>
          cases rest : getMarketPrices quote tail with
          | error error => simp [quoted, rest] at priced
          | ok others =>
              simp only [quoted, rest, Except.ok.injEq] at priced
              subst priced
              by_cases same : symbol = head
              · simp [same, quoted]
              · have inTail := (List.mem_cons.mp member).resolve_left same
                simp only [if_neg same, inductionHypothesis rest inTail]

/-- The price fetch succeeds exactly when no quote raises. -/
theorem getMarketPrices_ok_iff {quote : Symbol → Except PyError (Option Decimal)}
    {symbols : List Symbol} :
    (∃ prices, getMarketPrices quote symbols = .ok prices) ↔
      ∀ symbol ∈ symbols, ∃ price, quote symbol = .ok price := by
  constructor
  · rintro ⟨prices, priced⟩ symbol member
    exact ⟨prices symbol, getMarketPrices_apply priced member⟩
  · intro answered
    induction symbols with
    | nil => exact ⟨_, rfl⟩
    | cons head tail inductionHypothesis =>
        obtain ⟨price, quoted⟩ := answered head (by simp)
        obtain ⟨prices, rest⟩ := inductionHypothesis fun symbol member =>
          answered symbol (by simp [member])
        unfold getMarketPrices
        simp only [quoted, rest]
        exact ⟨_, rfl⟩

theorem mem_quotedSymbols (intent : TradeIntent) (ledger : Ledger) :
    intent.symbol ∈ quotedSymbols intent ledger := by
  simp [quotedSymbols]

/-- The call reaches the broker lookup: it is a trade of a known bot and the
halt gate lets it pass. -/
structure ReachesBroker (system : System β) (env : CallEnv β) (intent : TradeIntent)
    (ledger : Ledger) : Prop where
  registered : system.ledger? intent.botId = some ledger
  trades : intent.action ≠ .hold ∧ intent.action ≠ .noop
  gate : haltGate system env.reads intent = .ok none

/-- The call reaches the risk gate with these prices. -/
structure ReachesGate (system : System β) (env : CallEnv β) (intent : TradeIntent) (broker : β)
    (ledger : Ledger) (prices : PriceMap) : Prop
    extends ReachesBroker system env intent ledger where
  resolved : (system.coordinator.brokerFor intent.orgId env.factory).2 = .ok broker
  priced : getMarketPrices (env.quote broker) (quotedSymbols intent ledger) = .ok prices

/-- The gate sees the price the broker quotes for the intent's symbol. -/
theorem ReachesGate.quote_eq {system : System β} {env : CallEnv β} {intent : TradeIntent}
    {broker : β} {ledger : Ledger} {prices : PriceMap}
    (reaches : ReachesGate system env intent broker ledger prices) :
    env.quote broker intent.symbol = .ok (prices intent.symbol) :=
  getMarketPrices_apply reaches.priced (mem_quotedSymbols intent ledger)

/-- The call passes every gate and submits its order to `broker`. -/
structure Submits (system : System β) (env : CallEnv β) (intent : TradeIntent) (broker : β)
    (ledger : Ledger) (prices : PriceMap) : Prop
    extends ReachesGate system env intent broker ledger prices where
  approved : (system.coordinator.riskManager.evaluate intent ledger prices).approved = true

theorem executeBegin_of_reaches {system : System β} {env : CallEnv β} {intent : TradeIntent}
    {ledger : Ledger} (reaches : ReachesBroker system env intent ledger) {broker : β}
    (resolved : (system.coordinator.brokerFor intent.orgId env.factory).2 = .ok broker) :
    executeBegin system intent env.reads env.factory =
      (afterLookup system env intent, .quoting broker (quotedSymbols intent ledger)) := by
  have notIdle : ¬ (intent.action = .hold ∨ intent.action = .noop) := by
    simp [reaches.trades]
  unfold executeBegin afterLookup
  simp only [reaches.registered, if_neg notIdle, reaches.gate]
  rw [← Prod.mk.eta (p := system.coordinator.brokerFor intent.orgId env.factory), resolved]

/-- A call that waits for quotes has passed the gates before them. -/
theorem executeBegin_quoting {system after : System β} {env : CallEnv β} {intent : TradeIntent}
    {broker : β} {symbols : List Symbol}
    (begun : executeBegin system intent env.reads env.factory = (after, .quoting broker symbols)) :
    ∃ ledger, ReachesBroker system env intent ledger ∧
      (system.coordinator.brokerFor intent.orgId env.factory).2 = .ok broker := by
  unfold executeBegin at begun
  cases registered : system.ledger? intent.botId with
  | none => simp [registered] at begun
  | some ledger =>
      by_cases idle : intent.action = .hold ∨ intent.action = .noop
      · simp [registered, idle] at begun
      · simp only [registered, if_neg idle] at begun
        have trades : intent.action ≠ .hold ∧ intent.action ≠ .noop := by simpa using idle
        rcases gate : haltGate system env.reads intent with error | (- | rejected)
        · simp [gate] at begun
        · simp only [gate] at begun
          refine ⟨ledger, ⟨registered, trades, gate⟩, ?_⟩
          rcases lookup : system.coordinator.brokerFor intent.orgId env.factory with
            ⟨coordinator, error | found⟩
          · rw [lookup] at begun
            cases error <;> simp at begun
          · rw [lookup] at begun
            simp only [Prod.mk.injEq, Begun.quoting.injEq] at begun
            rw [begun.2.1]
        · simp [gate] at begun

/-- A call that submits nothing leaves everything but the broker cache alone. -/
theorem executeBegin_system (system : System β) (env : CallEnv β) (intent : TradeIntent) :
    ∃ cache, (executeBegin system intent env.reads env.factory).1 = system.setCache cache := by
  obtain ⟨cache, lookup⟩ := afterLookup_eq system env intent
  have unchanged : ∃ cache, system = system.setCache cache := ⟨_, system.setCache_self.symm⟩
  unfold executeBegin
  cases system.ledger? intent.botId with
  | none => exact unchanged
  | some ledger =>
      by_cases idle : intent.action = .hold ∨ intent.action = .noop
      · simp only [if_pos idle]
        exact unchanged
      · simp only [if_neg idle]
        rcases haltGate system env.reads intent with error | (- | rejected)
        · exact unchanged
        · refine ⟨cache, lookup ▸ ?_⟩
          unfold afterLookup
          rcases system.coordinator.brokerFor intent.orgId env.factory with
            ⟨coordinator, error | found⟩
          · cases error <;> rfl
          · rfl
        · exact unchanged

/-- A call that reaches the broker lookup leaves the looked-up broker cached. -/
theorem executeBegin_lookup {system : System β} {env : CallEnv β} {intent : TradeIntent}
    {ledger : Ledger} (reaches : ReachesBroker system env intent ledger) :
    (executeBegin system intent env.reads env.factory).1 = afterLookup system env intent := by
  have notIdle : ¬ (intent.action = .hold ∨ intent.action = .noop) := by
    simp [reaches.trades]
  unfold executeBegin afterLookup
  simp only [reaches.registered, if_neg notIdle, reaches.gate]
  rcases system.coordinator.brokerFor intent.orgId env.factory with ⟨coordinator, error | found⟩
  · cases error <;> rfl
  · rfl

/-- Any other call looks no broker up. -/
theorem executeBegin_unreached {system : System β} {env : CallEnv β} {intent : TradeIntent}
    (unreached : ∀ ledger, ¬ ReachesBroker system env intent ledger) :
    (executeBegin system intent env.reads env.factory).1 = system := by
  unfold executeBegin
  cases registered : system.ledger? intent.botId with
  | none => rfl
  | some ledger =>
      by_cases idle : intent.action = .hold ∨ intent.action = .noop
      · simp only [if_pos idle]
      · simp only [if_neg idle]
        rcases gate : haltGate system env.reads intent with error | (- | rejected)
        · rfl
        · exact absurd ⟨registered, by simpa using idle, gate⟩ (unreached ledger)
        · rfl

/-- An order leaves the risk gate approved. -/
theorem executePriced_submitting {manager : RiskManager} {intent : TradeIntent} {ledger : Ledger}
    {fetched : Except PyError PriceMap} {order : OrderRequest} {decision : RiskDecision}
    (submits : executePriced manager intent ledger fetched = .submitting order decision) :
    ∃ prices, (manager.evaluate intent ledger prices).approved = true := by
  unfold executePriced at submits
  cases fetched with
  | error error => simp at submits
  | ok prices =>
      refine ⟨prices, ?_⟩
      by_contra rejected
      simp [rejected] at submits

/-- The call from the submission on. -/
theorem execute_of_submits {system : System β} {env : CallEnv β} {intent : TradeIntent}
    {broker : β} {ledger : Ledger} {prices : PriceMap}
    (submits : Submits system env intent broker ledger prices) :
    execute system env intent =
      let finished := executeAnswered (afterLookup system env intent) intent
        (system.coordinator.riskManager.evaluate intent ledger prices)
        (env.submit broker (intentToOrder intent)) env.write
      (finished.1, ⟨finished.2, some (broker, intentToOrder intent)⟩) := by
  obtain ⟨cache, lookup⟩ := afterLookup_eq system env intent
  unfold execute
  rw [executeBegin_of_reaches submits.toReachesBroker submits.resolved]
  simp only [lookup, System.ledger?_setCache, submits.registered, submits.priced]
  unfold executePriced
  simp only [System.riskManager_setCache, submits.approved, if_true]

/-- Either the call submits nothing and changes at most the cache, or it has
passed every gate. -/
theorem execute_cases (system : System β) (env : CallEnv β) (intent : TradeIntent) :
    ((execute system env intent).2.submitted = none ∧
        ∃ cache, (execute system env intent).1 = system.setCache cache) ∨
      ∃ broker ledger prices, Submits system env intent broker ledger prices := by
  obtain ⟨cache, same⟩ := executeBegin_system system env intent
  rcases begun : executeBegin system intent env.reads env.factory with ⟨after, standing⟩
  have system_after : after = system.setCache cache := by rw [← same, begun]
  cases standing with
  | raised error =>
      left
      unfold execute
      rw [begun]
      exact ⟨rfl, cache, system_after⟩
  | returned result =>
      left
      unfold execute
      rw [begun]
      exact ⟨rfl, cache, system_after⟩
  | quoting broker symbols =>
      obtain ⟨ledger, reaches, resolved⟩ := executeBegin_quoting begun
      have symbolsEq : symbols = quotedSymbols intent ledger := by
        rw [executeBegin_of_reaches reaches resolved] at begun
        exact (Begun.quoting.inj (Prod.mk.inj begun).2).2.symm
      subst system_after symbolsEq
      cases priced : getMarketPrices (env.quote broker) (quotedSymbols intent ledger) with
      | error error =>
          left
          unfold execute executePriced
          simp only [begun, System.ledger?_setCache, reaches.registered, priced]
          exact ⟨trivial, cache, rfl⟩
      | ok prices =>
          by_cases approved :
              (system.coordinator.riskManager.evaluate intent ledger prices).approved = true
          · exact Or.inr ⟨broker, ledger, prices, ⟨⟨reaches, resolved, priced⟩, approved⟩⟩
          · left
            unfold execute executePriced
            simp only [begun, System.ledger?_setCache, reaches.registered, priced,
              System.riskManager_setCache, approved]
            exact ⟨rfl, cache, rfl⟩

/-- An order is submitted exactly when all gates are passed, and it is the
normalized intent. -/
theorem submitted_iff {system : System β} {env : CallEnv β} {intent : TradeIntent} {broker : β}
    {order : OrderRequest} :
    (execute system env intent).2.submitted = some (broker, order) ↔
      order = intentToOrder intent ∧
        ∃ ledger prices, Submits system env intent broker ledger prices := by
  constructor
  · intro submitted
    rcases execute_cases system env intent with ⟨nothing, -⟩ | ⟨other, ledger, prices, submits⟩
    · rw [nothing] at submitted
      exact absurd submitted (by simp)
    · rw [execute_of_submits submits] at submitted
      obtain ⟨rfl, rfl⟩ := Prod.mk.inj (Option.some.inj submitted)
      exact ⟨rfl, ledger, prices, submits⟩
  · rintro ⟨rfl, ledger, prices, submits⟩
    rw [execute_of_submits submits]

/-! ### What a submitted order changes -/

/-- The fill the answer to a submitted order reports, if it reports one. -/
def reportedFill (env : CallEnv β) (intent : TradeIntent) (broker : β) : Option Fill :=
  match env.submit broker (intentToOrder intent) with
  | .error _ => none
  | .ok result => if result.filledQuantity ≤ 0 then none else some (fillOf intent result)

theorem reportedFill_eq_some {env : CallEnv β} {intent : TradeIntent} {broker : β} {fill : Fill}
    (reported : reportedFill env intent broker = some fill) :
    0 < fill.quantity ∧ fill.symbol = intent.symbol ∧ fill.side = intentToSide intent.action ∧
      ∃ result, env.submit broker (intentToOrder intent) = .ok result ∧
        fill = fillOf intent result := by
  unfold reportedFill at reported
  split at reported
  next => exact absurd reported (by simp)
  next result answered =>
    split at reported
    next => exact absurd reported (by simp)
    next positive =>
      have same := Option.some.inj reported
      subst same
      exact ⟨not_le.mp positive, rfl, rfl, result, answered, rfl⟩

/-- The system after a call that submitted an order: the reported fill, if
there is one, was booked. -/
theorem system_execute_of_submits {system : System β} {env : CallEnv β} {intent : TradeIntent}
    {broker : β} {ledger : Ledger} {prices : PriceMap}
    (submits : Submits system env intent broker ledger prices) :
    (execute system env intent).1 =
      match reportedFill env intent broker with
      | none => afterLookup system env intent
      | some fill =>
          (bookFill (afterLookup system env intent) intent.botId ledger fill env.write).1 := by
  obtain ⟨cache, lookup⟩ := afterLookup_eq system env intent
  rw [execute_of_submits submits]
  unfold executeAnswered reportedFill
  cases env.submit broker (intentToOrder intent) with
  | error error => rfl
  | ok result =>
      simp only [recordFill]
      by_cases nothing : result.filledQuantity ≤ 0
      · simp only [if_pos nothing]
      · simp only [if_neg nothing, lookup, System.ledger?_setCache, submits.registered]

theorem coordinator_bookFill (system : System β) (botId : BotId) (ledger : Ledger) (fill : Fill)
    (write : LedgerStore.WriteEnv) :
    (bookFill system botId ledger fill write).1.coordinator =
      (system.setLedger botId (ledger.recordFill fill).1).coordinator := by
  unfold bookFill
  cases system.coordinator.ledgerStore with
  | none => rfl
  | some store => simp only [LedgerStore.recordAndPersist_ledger]

theorem ledger?_bookFill (system : System β) (botId other : BotId) (ledger : Ledger) (fill : Fill)
    (write : LedgerStore.WriteEnv) :
    (bookFill system botId ledger fill write).1.ledger? other =
      if other = botId then some (ledger.recordFill fill).1 else system.ledger? other := by
  unfold System.ledger?
  rw [coordinator_bookFill]
  exact system.ledger?_setLedger botId other _

/-- The broker's answer changes nothing, or the positive fill it reports is
booked. -/
theorem executeAnswered_cases (system : System β) (intent : TradeIntent) (decision : RiskDecision)
    (answer : Except PyError OrderResult) (write : LedgerStore.WriteEnv) :
    (executeAnswered system intent decision answer write).1 = system ∨
      ∃ result ledger, answer = .ok result ∧ 0 < result.filledQuantity ∧
        system.ledger? intent.botId = some ledger ∧
        (executeAnswered system intent decision answer write).1 =
          (bookFill system intent.botId ledger (fillOf intent result) write).1 := by
  unfold executeAnswered recordFill
  cases answer with
  | error error => exact Or.inl rfl
  | ok result =>
      by_cases nothing : result.filledQuantity ≤ 0
      · simp only [if_pos nothing, true_or]
      · simp only [if_neg nothing]
        cases found : system.ledger? intent.botId with
        | none => exact Or.inl rfl
        | some ledger => exact Or.inr ⟨result, ledger, rfl, not_le.mp nothing, rfl, rfl⟩

theorem brokerCache_executeAnswered (system : System β) (intent : TradeIntent)
    (decision : RiskDecision) (answer : Except PyError OrderResult)
    (write : LedgerStore.WriteEnv) :
    (executeAnswered system intent decision answer write).1.coordinator.brokerCache =
      system.coordinator.brokerCache := by
  rcases executeAnswered_cases system intent decision answer write with
    same | ⟨result, ledger, -, -, -, same⟩
  · rw [same]
  · rw [same, coordinator_bookFill]
    rfl

/-- The ledgers after a call that submitted an order. -/
theorem ledgers_execute_of_submits {system : System β} {env : CallEnv β} {intent : TradeIntent}
    {broker : β} {ledger : Ledger} {prices : PriceMap}
    (submits : Submits system env intent broker ledger prices) :
    (execute system env intent).1.coordinator.ledgers =
      match reportedFill env intent broker with
      | none => system.coordinator.ledgers
      | some fill => system.coordinator.ledgers.set intent.botId (ledger.recordFill fill).1 := by
  obtain ⟨cache, lookup⟩ := afterLookup_eq system env intent
  rw [system_execute_of_submits submits, lookup]
  cases reportedFill env intent broker with
  | none => rfl
  | some fill =>
      simp only [coordinator_bookFill]
      rfl

theorem ledger?_execute_of_submits {system : System β} {env : CallEnv β} {intent : TradeIntent}
    {broker : β} {ledger : Ledger} {prices : PriceMap}
    (submits : Submits system env intent broker ledger prices) (botId : BotId) :
    (execute system env intent).1.ledger? botId =
      if botId = intent.botId then
        some (match reportedFill env intent broker with
          | none => ledger
          | some fill => (ledger.recordFill fill).1)
      else system.ledger? botId := by
  unfold System.ledger?
  rw [ledgers_execute_of_submits submits]
  cases reportedFill env intent broker with
  | none =>
      by_cases same : botId = intent.botId
      · simp only [same, if_true]
        exact submits.registered
      · simp only [if_neg same]
  | some fill =>
      simp only [Dict.get?_set]

/-- A call changes nothing of the coordinator but the broker cache and the
ledgers. -/
theorem coordinator_execute (system : System β) (env : CallEnv β) (intent : TradeIntent) :
    ∃ cache ledgers, (execute system env intent).1.coordinator =
      { system.coordinator with brokerCache := cache, ledgers := ledgers } := by
  rcases execute_cases system env intent with ⟨-, cache, same⟩ | ⟨broker, ledger, prices, submits⟩
  · exact ⟨cache, system.coordinator.ledgers, by rw [same]; rfl⟩
  · obtain ⟨cache, lookup⟩ := afterLookup_eq system env intent
    rw [system_execute_of_submits submits, lookup]
    cases reportedFill env intent broker with
    | none => exact ⟨cache, _, rfl⟩
    | some fill =>
        refine ⟨cache, system.coordinator.ledgers.set intent.botId (ledger.recordFill fill).1, ?_⟩
        simp only [coordinator_bookFill]
        rfl

/-- The broker cache is settled by the first part of a call. -/
theorem brokerCache_execute (system : System β) (env : CallEnv β) (intent : TradeIntent) :
    (execute system env intent).1.coordinator.brokerCache =
      (executeBegin system intent env.reads env.factory).1.coordinator.brokerCache := by
  unfold execute
  rcases executeBegin system intent env.reads env.factory with
    ⟨after, error | result | ⟨broker, symbols⟩⟩
  · rfl
  · rfl
  · dsimp only
    cases after.ledger? intent.botId with
    | none => rfl
    | some ledger =>
        dsimp only
        cases executePriced after.coordinator.riskManager intent ledger
            (getMarketPrices (env.quote broker) symbols) with
        | raised error => rfl
        | rejected result => rfl
        | submitting order decision => simp only [brokerCache_executeAnswered]

@[simp] theorem riskManager_execute (system : System β) (env : CallEnv β) (intent : TradeIntent) :
    (execute system env intent).1.coordinator.riskManager = system.coordinator.riskManager := by
  obtain ⟨cache, ledgers, same⟩ := coordinator_execute system env intent
  rw [same]

@[simp] theorem haltStore_execute (system : System β) (env : CallEnv β) (intent : TradeIntent) :
    (execute system env intent).1.coordinator.haltStore = system.coordinator.haltStore := by
  obtain ⟨cache, ledgers, same⟩ := coordinator_execute system env intent
  rw [same]

/-- Booking a fill in a bot's ledger only writes rows of the ledger store. -/
theorem getItem_bookFill {pk : String} (system : System β) (botId : BotId) (ledger : Ledger)
    (fill : Fill) (write : LedgerStore.WriteEnv) (notSnapshot : pk ≠ LedgerStore.snapshotPk botId)
    (notEvent : pk ≠ LedgerStore.eventPk botId write.eventAt write.suffix) :
    (bookFill system botId ledger fill write).1.table.getItem pk = system.table.getItem pk := by
  unfold bookFill
  cases system.coordinator.ledgerStore with
  | none => rfl
  | some store =>
      exact LedgerStore.getItem_recordAndPersist system.table ledger fill write notSnapshot notEvent

/-- A call writes no rows but those of the ledger store. -/
theorem getItem_execute {pk : String} (system : System β) (env : CallEnv β) (intent : TradeIntent)
    (notSnapshot : pk ≠ LedgerStore.snapshotPk intent.botId)
    (notEvent : pk ≠ LedgerStore.eventPk intent.botId env.write.eventAt env.write.suffix) :
    (execute system env intent).1.table.getItem pk = system.table.getItem pk := by
  rcases execute_cases system env intent with ⟨-, cache, same⟩ | ⟨broker, ledger, prices, submits⟩
  · rw [same]
    rfl
  · obtain ⟨cache, lookup⟩ := afterLookup_eq system env intent
    rw [system_execute_of_submits submits, lookup]
    cases reportedFill env intent broker with
    | none => rfl
    | some fill => exact getItem_bookFill _ _ _ _ _ notSnapshot notEvent

/-! ### Calls as events of a run -/

/-- One call with everything it reads from outside. -/
structure Call (β : Type) where
  env : CallEnv β
  intent : TradeIntent

/-- The system after the call. -/
def System.perform (system : System β) (call : Call β) : System β :=
  (execute system call.env call.intent).1

/-- Every ledger of the system is sound. -/
def System.Sound (system : System β) : Prop :=
  ∀ botId ledger, system.ledger? botId = some ledger → ledger.Sound

/-- A ledger may be replaced by a sound one. -/
theorem System.Sound.of_ledger {system after : System β} (sound : system.Sound) {botId : BotId}
    {ledger : Ledger} (ledgerSound : ledger.Sound)
    (same : ∀ other, after.ledger? other = if other = botId then some ledger else system.ledger? other) :
    after.Sound := by
  intro other found lookup
  rw [same] at lookup
  split at lookup
  next => exact Option.some.inj lookup ▸ ledgerSound
  next => exact sound other found lookup

/-- Only positive fills are ever booked, so no call makes a ledger unsound. -/
theorem System.Sound.perform {system : System β} (sound : system.Sound) (call : Call β) :
    (system.perform call).Sound := by
  intro botId after found
  unfold System.perform at found
  rcases execute_cases system call.env call.intent with
    ⟨-, cache, same⟩ | ⟨broker, ledger, prices, submits⟩
  · rw [same] at found
    exact sound botId after found
  · rw [ledger?_execute_of_submits submits] at found
    by_cases same : botId = call.intent.botId
    · rw [if_pos same, Option.some.injEq] at found
      have before := sound _ _ submits.registered
      cases reported : reportedFill call.env call.intent broker with
      | none =>
          rw [reported] at found
          exact found ▸ before
      | some fill =>
          rw [reported] at found
          exact found ▸ before.recordFill (reportedFill_eq_some reported).1
    · rw [if_neg same] at found
      exact sound botId after found

/-- A call adds no ledger. -/
theorem System.registered_of_perform {system : System β} {call : Call β} {botId : BotId}
    {after : Ledger} (found : (system.perform call).ledger? botId = some after) :
    ∃ before, system.ledger? botId = some before := by
  unfold System.perform at found
  rcases execute_cases system call.env call.intent with
    ⟨-, cache, same⟩ | ⟨broker, ledger, prices, submits⟩
  · rw [same] at found
    exact ⟨after, found⟩
  · rw [ledger?_execute_of_submits submits] at found
    split at found
    next own => exact ⟨ledger, own ▸ submits.registered⟩
    next => exact ⟨after, found⟩

/-- The simplest world around a call: one account, one price for everything,
and every order filled in full at that price without fees. -/
def CallEnv.steady (price : Decimal) : CallEnv Unit :=
  { factory := .ok ()
    quote := fun _ _ => .ok (some price)
    submit := fun _ order =>
      .ok { orderId := "order", status := .filled, filledQuantity := order.quantity,
            filledPrice := price } }

/-- A system with one fresh ledger. -/
def System.single (botId : BotId) (capital : Decimal) : System Unit :=
  { coordinator := { ledgers := Dict.empty.set botId (Ledger.ofCapital capital) } }

theorem System.ledger?_single {botId other : BotId} {capital : Decimal} {ledger : Ledger}
    (found : (System.single botId capital).ledger? other = some ledger) :
    other = botId ∧ ledger = Ledger.ofCapital capital := by
  unfold System.single System.ledger? at found
  rcases Dict.set_or_get?_of_get?_set found with set | before
  · exact set
  · exact absurd before (by simp)

theorem System.sound_single (botId : BotId) (capital : Decimal) :
    (System.single botId capital).Sound := by
  intro other ledger found
  obtain ⟨-, rfl⟩ := System.ledger?_single found
  exact Ledger.sound_ofCapital capital

end TradingStrands
