import TradingStrands.App.BrokerFactory
import TradingStrands.Coordinator.Calls
import TradingStrands.Foundation.Reading
import TradingStrands.Foundation.Runs

/-!
Owns which account the orders of an organisation go through, along runs of
`execute` with transient failures of the secret reads. The factory answers a
failed read with the global account, and the coordinator keeps the broker it was
given, so one failed read at the first use decides every later order.

Does not own: changes of the configured secrets during a run.
-/

namespace TradingStrands

open TradingStrands.Foundation

/-- The application: its global credentials and the secrets configured. -/
structure App where
  globalEnv : GlobalEnv
  secrets : String → Option SecretPayload

/-- One event of a run. The factory of a call is the application's, over a
secret store whose reads fail during this call or do not. -/
inductive CredentialEvent
  | execute (readFails : Bool) (call : Call AlpacaAdapter)
  | invalidateBroker (orgId : OrgId)

namespace App

variable (app : App)

/-- What a secret read answers. -/
def getSecretValue (readFails : Bool) (name : String) : SecretRead :=
  if readFails then .failed
  else
    match app.secrets name with
    | none => .resourceNotFound
    | some payload => .found payload

/-- The call with the application's factory in place. -/
def wire (readFails : Bool) (call : Call AlpacaAdapter) : Call AlpacaAdapter :=
  { call with env :=
      { call.env with
        factory := makeBrokerFactory app.globalEnv (some (app.getSecretValue readFails))
          call.intent.orgId } }

def apply (system : System AlpacaAdapter) : CredentialEvent → System AlpacaAdapter
  | .execute readFails call => system.perform (app.wire readFails call)
  | .invalidateBroker orgId =>
      { system with coordinator := system.coordinator.invalidateBroker orgId }

/-- The organisation has its own complete secret, and this is its adapter. -/
def Own (orgId : OrgId) (adapter : AlpacaAdapter) : Prop :=
  ∃ payload, app.secrets (secretNameFor orgId) = some payload ∧ payload.Complete ∧
    adapter = payload.adapter

/-- An order submitted for an organisation with its own secret goes through its
own account. -/
def RoutesOwn (system : System AlpacaAdapter) : CredentialEvent → Prop
  | .execute readFails call => ∀ adapter broker order, app.Own call.intent.orgId adapter →
      (execute system (app.wire readFails call).env call.intent).2.submitted =
        some (broker, order) → broker = adapter
  | .invalidateBroker _ => True

/-- The broker that later orders of an organisation with its own secret will go
through, if there is one yet, is its own account. -/
def CachedOwn (system : System AlpacaAdapter) : Prop :=
  ∀ orgId adapter broker, app.Own orgId adapter →
    system.coordinator.brokerCache.get? orgId = some broker → broker = adapter

/-- A call that has to build the broker of an organisation with its own secret
finds the secret readable, or finds no other account to fall back to. -/
def FirstReadSucceeds (system : System AlpacaAdapter) : CredentialEvent → Prop
  | .execute readFails call => ∀ adapter ledger, app.Own call.intent.orgId adapter →
      ReachesBroker system call.env call.intent ledger →
        system.coordinator.brokerCache.get? call.intent.orgId = none →
          readFails = false ∨ ¬ app.globalEnv.Configured ∨ app.globalEnv.adapter = adapter
  | .invalidateBroker _ => True

variable {app}

/-! ### One call -/

theorem Own.unique {orgId : OrgId} {left right : AlpacaAdapter} (first : app.Own orgId left)
    (second : app.Own orgId right) : left = right := by
  obtain ⟨payload, found, -, rfl⟩ := first
  obtain ⟨other, foundOther, -, rfl⟩ := second
  rw [Option.some.inj (found.symm.trans foundOther)]

/-- What the factory builds for an organisation with its own secret. -/
theorem Own.makeBrokerFactory {orgId : OrgId} {adapter : AlpacaAdapter}
    (own : app.Own orgId adapter) (readFails : Bool) :
    makeBrokerFactory app.globalEnv (some (app.getSecretValue readFails)) orgId =
      if readFails = true then app.globalEnv.fallback orgId else .ok adapter := by
  obtain ⟨payload, found, complete, rfl⟩ := own
  unfold TradingStrands.makeBrokerFactory getSecretValue
  cases readFails with
  | true => rfl
  | false =>
      simp only [Bool.false_eq_true, if_false, found]
      exact if_pos complete

/-- It builds no other adapter exactly when the read succeeds or there is no
other account to fall back to. -/
theorem Own.factory_own_iff {orgId : OrgId} {adapter : AlpacaAdapter}
    (own : app.Own orgId adapter) (readFails : Bool) :
    (∀ broker, TradingStrands.makeBrokerFactory app.globalEnv
        (some (app.getSecretValue readFails)) orgId = .ok broker → broker = adapter) ↔
      readFails = false ∨ ¬ app.globalEnv.Configured ∨ app.globalEnv.adapter = adapter := by
  rw [own.makeBrokerFactory]
  cases readFails with
  | false => simp [eq_comm]
  | true =>
      unfold GlobalEnv.fallback
      by_cases configured : app.globalEnv.Configured
      · simp [configured]
      · simp [configured]

/-- The cached broker after a lookup. -/
theorem get?_brokerFor {β : Type} (coordinator : TradeCoordinator β) (orgId other : OrgId)
    (factory : Except String β) :
    (coordinator.brokerFor orgId factory).1.brokerCache.get? other =
      if other = orgId then (coordinator.brokerFor orgId factory).2.toOption
      else coordinator.brokerCache.get? other := by
  unfold TradeCoordinator.brokerFor
  cases cached : coordinator.brokerCache.get? orgId with
  | some broker =>
      by_cases same : other = orgId
      · simp [same, cached, Except.toOption]
      · simp [same]
  | none =>
      cases factory with
      | error text =>
          by_cases same : other = orgId
          · simp [same, cached, Except.toOption]
          · simp [same]
      | ok broker =>
          simp only [Dict.get?_set, Except.toOption]

/-- A call that reaches the broker lookup caches what it finds. -/
theorem get?_brokerCache_of_reaches {system : System AlpacaAdapter} {call : Call AlpacaAdapter}
    {ledger : Ledger} (reaches : ReachesBroker system call.env call.intent ledger)
    (orgId : OrgId) :
    (system.perform call).coordinator.brokerCache.get? orgId =
      if orgId = call.intent.orgId then
        (system.coordinator.brokerFor call.intent.orgId call.env.factory).2.toOption
      else system.coordinator.brokerCache.get? orgId := by
  unfold System.perform
  rw [brokerCache_execute, executeBegin_lookup reaches]
  exact get?_brokerFor _ _ _ _

/-- Any other call leaves the cache alone. -/
theorem brokerCache_of_unreached {system : System AlpacaAdapter} {call : Call AlpacaAdapter}
    (unreached : ∀ ledger, ¬ ReachesBroker system call.env call.intent ledger) :
    (system.perform call).coordinator.brokerCache = system.coordinator.brokerCache := by
  unfold System.perform
  rw [brokerCache_execute, executeBegin_unreached unreached]

@[simp] theorem wire_intent (readFails : Bool) (call : Call AlpacaAdapter) :
    (app.wire readFails call).intent = call.intent := rfl

/-- Reaching the broker lookup does not depend on the factory. -/
theorem reachesBroker_wire {system : System AlpacaAdapter} {readFails : Bool}
    {call : Call AlpacaAdapter} {ledger : Ledger} :
    ReachesBroker system (app.wire readFails call).env (app.wire readFails call).intent ledger ↔
      ReachesBroker system call.env call.intent ledger :=
  ⟨fun reaches => ⟨reaches.registered, reaches.trades, reaches.gate⟩,
    fun reaches => ⟨reaches.registered, reaches.trades, reaches.gate⟩⟩

/-- The broker a call resolves, where it reaches the lookup. -/
private theorem resolved_own {system : System AlpacaAdapter} {readFails : Bool}
    {call : Call AlpacaAdapter} {adapter broker : AlpacaAdapter} {ledger : Ledger}
    (cached : app.CachedOwn system) (succeeds : app.FirstReadSucceeds system (.execute readFails call))
    (own : app.Own call.intent.orgId adapter)
    (reaches : ReachesBroker system call.env call.intent ledger)
    (resolved : (system.coordinator.brokerFor call.intent.orgId
      (app.wire readFails call).env.factory).2 = .ok broker) : broker = adapter := by
  unfold TradeCoordinator.brokerFor at resolved
  cases held : system.coordinator.brokerCache.get? call.intent.orgId with
  | some other =>
      rw [held] at resolved
      exact Except.ok.inj resolved ▸ cached _ _ _ own held
  | none =>
      rw [held] at resolved
      have builds := (own.factory_own_iff readFails).mpr (succeeds adapter ledger own reaches held)
      cases factory : (app.wire readFails call).env.factory with
      | error text => simp [factory] at resolved
      | ok built =>
          simp only [factory, Except.ok.injEq] at resolved
          exact resolved ▸ builds built factory

/-- A call whose first read succeeds routes its order through the own account. -/
theorem routesOwn_of_cachedOwn {system : System AlpacaAdapter} {event : CredentialEvent}
    (cached : app.CachedOwn system) (succeeds : app.FirstReadSucceeds system event) :
    app.RoutesOwn system event := by
  cases event with
  | invalidateBroker orgId => trivial
  | execute readFails call =>
      intro adapter broker order own submitted
      obtain ⟨-, ledger, prices, submits⟩ := submitted_iff.mp submitted
      exact resolved_own cached succeeds own (reachesBroker_wire.mp submits.toReachesBroker)
        submits.resolved

/-- An event keeps the cache clean exactly when its first read succeeds. -/
theorem cachedOwn_apply_iff {system : System AlpacaAdapter} (event : CredentialEvent)
    (cached : app.CachedOwn system) :
    app.CachedOwn (app.apply system event) ↔ app.FirstReadSucceeds system event := by
  cases event with
  | invalidateBroker orgId =>
      refine iff_of_true (fun other adapter broker own found => ?_) trivial
      by_cases same : other = orgId
      · subst same
        exact absurd found (by simp [apply, TradeCoordinator.invalidateBroker])
      · refine cached other adapter broker own ?_
        rw [← Dict.get?_erase_of_ne _ same]
        exact found
  | execute readFails call =>
      constructor
      · intro clean adapter ledger own reaches uncached
        rw [← own.factory_own_iff readFails]
        intro broker built
        refine clean call.intent.orgId adapter broker own ?_
        have wired : ReachesBroker system (app.wire readFails call).env
            (app.wire readFails call).intent ledger := reachesBroker_wire.mpr reaches
        have looked := get?_brokerCache_of_reaches wired call.intent.orgId
        refine looked.trans ((if_pos rfl).trans ?_)
        simp only [wire, TradeCoordinator.brokerFor, uncached, built]
        rfl
      · intro succeeds other adapter broker own found
        change (system.perform (app.wire readFails call)).coordinator.brokerCache.get? other =
          some broker at found
        by_cases reached : ∃ ledger, ReachesBroker system call.env call.intent ledger
        · obtain ⟨ledger, reaches⟩ := reached
          rw [get?_brokerCache_of_reaches (reachesBroker_wire.mpr reaches), wire_intent] at found
          by_cases same : other = call.intent.orgId
          · subst same
            rw [if_pos rfl] at found
            exact resolved_own cached succeeds own reaches (toOption_eq_some_iff.mp found)
          · rw [if_neg same] at found
            exact cached other adapter broker own found
        · rw [brokerCache_of_unreached fun ledger reaches =>
            reached ⟨ledger, reachesBroker_wire.mp reaches⟩] at found
          exact cached other adapter broker own found

/-! ### Runs -/

/-- Along a run every order of an organisation with its own secret goes through
its own account, now and through the cache later, exactly when no call builds
the broker of such an organisation from a failed read. -/
theorem routesOwn_iff_firstReadSucceeds {start : System AlpacaAdapter}
    {events : List CredentialEvent} (clean : app.CachedOwn start) :
    (EachStep app.apply app.RoutesOwn start events ∧ Always app.apply app.CachedOwn start events) ↔
      EachStep app.apply app.FirstReadSucceeds start events := by
  have exact : Always app.apply app.CachedOwn start events ↔
      EachStep app.apply app.FirstReadSucceeds start events :=
    always_iff_eachStep app.apply
      (fun _ event cached (_ : True) => cachedOwn_apply_iff event cached) clean
      (eachStep_of_forall app.apply start fun _ _ => trivial)
  constructor
  · rintro ⟨-, always⟩
    exact exact.mp always
  · intro succeeds
    have keeps : ∀ system event, app.CachedOwn system → app.FirstReadSucceeds system event →
        app.CachedOwn (app.apply system event) :=
      fun system event cached => (cachedOwn_apply_iff event cached).mpr
    exact ⟨eachStep_of_eachStep app.apply keeps (fun _ _ => routesOwn_of_cachedOwn) clean succeeds,
      exact.mpr succeeds⟩

/-- A global account, and one organisation with its own. -/
def twoAccounts : App where
  globalEnv := { alpacaApiKey := "global", alpacaSecretKey := "global" }
  secrets := fun name =>
    if name = secretNameFor "org" then some { apiKey := some "org", secretKey := some "org" }
    else none

/-- A call that buys one share, through whatever account. -/
def oneShare : Call AlpacaAdapter where
  env :=
    { factory := .error ""
      quote := fun _ _ => .ok (some 100)
      submit := fun _ order =>
        .ok { orderId := "order", status := .filled, filledQuantity := order.quantity,
              filledPrice := 100 } }
  intent := ⟨"bot", "org", "AAPL", .buy, 1, ""⟩

def oneBot : System AlpacaAdapter :=
  { coordinator := { ledgers := Dict.empty.set "bot" (Ledger.ofCapital 1000) } }

theorem cachedOwn_oneBot : twoAccounts.CachedOwn oneBot := by
  intro orgId adapter broker own found
  exact absurd found (by simp [oneBot])

/-- A failed read after a successful one changes nothing. -/
theorem routesOwn_iff_firstReadSucceeds_late_failure :
    EachStep twoAccounts.apply twoAccounts.RoutesOwn oneBot
        [.execute false oneShare, .execute true oneShare] ∧
      Always twoAccounts.apply twoAccounts.CachedOwn oneBot
        [.execute false oneShare, .execute true oneShare] := by
  refine (routesOwn_iff_firstReadSucceeds cachedOwn_oneBot).mpr ⟨?_, ?_, trivial⟩
  · exact fun _ _ _ _ _ => Or.inl rfl
  · intro adapter ledger own reaches uncached
    exact absurd uncached (by decide +kernel)

/-- A failed read at the first use routes this order and the next, whose read
succeeds, through the global account. -/
theorem not_routesOwn_first_failure :
    ¬ (EachStep twoAccounts.apply twoAccounts.RoutesOwn oneBot
          [.execute true oneShare, .execute false oneShare] ∧
        Always twoAccounts.apply twoAccounts.CachedOwn oneBot
          [.execute true oneShare, .execute false oneShare]) := by
  rintro ⟨⟨-, later, -⟩, -⟩
  have own : twoAccounts.Own "org" ⟨"org", "org", true⟩ :=
    ⟨{ apiKey := some "org", secretKey := some "org" }, by decide +kernel, by decide +kernel,
      by decide +kernel⟩
  have routed := later _ ⟨"global", "global", true⟩ ⟨"AAPL", .buy, 1, .market, none, .day⟩ own
    (by decide +kernel)
  exact absurd routed (by decide)

end App

end TradingStrands
