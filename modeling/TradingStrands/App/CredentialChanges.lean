import TradingStrands.App.CredentialIsolation
import TradingStrands.Dashboard.Credentials

/-!
Owns which account the orders of an organisation go through while its administrators
change its credentials. The trading service looks an organisation's broker up once and
keeps it; nothing the dashboard does makes it forget. So the account of every order is
the one the credentials named when the organisation's first order came that far, and a
later change, a removal included, is not seen.
-/

namespace TradingStrands

open TradingStrands.Foundation AlpacaSecretsStore

/-- The trading service beside the secrets the dashboard writes. -/
structure RotatingApp where
  secrets : Secrets := Dict.empty
  system : System AlpacaAdapter

/-- One event: a request for credentials, or a call of the trading service, in
which the reads of secrets fail or do not. -/
inductive RotationEvent
  | request (request : Dashboard.SecretRequest)
  | execute (readFails : Bool) (call : Call AlpacaAdapter)

namespace RotatingApp

/-- The application, over the secrets as they are. -/
def app (globalEnv : GlobalEnv) (rotating : RotatingApp) : App where
  globalEnv := globalEnv
  secrets := rotating.secrets.get?

variable (deployFlag : Bool) (globalEnv : GlobalEnv)

def step (rotating : RotatingApp) : RotationEvent → RotatingApp
  | .request request =>
      { rotating with secrets := request.step deployFlag rotating.secrets }
  | .execute readFails call =>
      { rotating with
        system := rotating.system.perform ((rotating.app globalEnv).wire readFails call) }

/-- The requests of a run. -/
def requestsOf (events : List RotationEvent) : List Dashboard.SecretRequest :=
  events.filterMap fun
    | .request request => some request
    | .execute _ _ => none

/-- What the factory builds for an organisation. -/
def built (rotating : RotatingApp) (readFails : Bool) (orgId : OrgId) :
    Except String AlpacaAdapter :=
  makeBrokerFactory globalEnv (some (getSecretValue rotating.secrets readFails)) orgId

/-- The call is the first of its organisation to look a broker up, and finds one. -/
structure FirstLookup (rotating : RotatingApp) (readFails : Bool) (call : Call AlpacaAdapter)
    (orgId : OrgId) (broker : AlpacaAdapter) : Prop where
  own : call.intent.orgId = orgId
  reaches : ∃ ledger, ReachesBroker rotating.system call.env call.intent ledger
  uncached : rotating.system.coordinator.brokerCache.get? orgId = none
  builds : rotating.built globalEnv readFails orgId = .ok broker

/-- The order a call submits, and through which account. -/
def submitted (rotating : RotatingApp) (readFails : Bool) (call : Call AlpacaAdapter) :
    Option (AlpacaAdapter × OrderRequest) :=
  (TradingStrands.execute rotating.system
    ((rotating.app globalEnv).wire readFails call).env call.intent).2.submitted

/-- The broker the trading service keeps for an organisation, if it has one. -/
def cached (rotating : RotatingApp) (orgId : OrgId) : Option AlpacaAdapter :=
  rotating.system.coordinator.brokerCache.get? orgId

variable {deployFlag globalEnv}

/-! ### One event -/

theorem factory_wire (rotating : RotatingApp) (readFails : Bool) (call : Call AlpacaAdapter) :
    ((rotating.app globalEnv).wire readFails call).env.factory =
      rotating.built globalEnv readFails call.intent.orgId := by
  have reads : (rotating.app globalEnv).getSecretValue readFails =
      getSecretValue rotating.secrets readFails := by
    funext name
    unfold App.getSecretValue getSecretValue app
    cases readFails with
    | true => rfl
    | false => cases found : rotating.secrets.get? name <;> simp [found]
  unfold App.wire built
  rw [reads]
  rfl

/-- The broker kept for an organisation after an event is the one kept before it, or
was just built by the first lookup. -/
theorem cached_step_iff (rotating : RotatingApp) (event : RotationEvent) (orgId : OrgId)
    (broker : AlpacaAdapter) :
    (step deployFlag globalEnv rotating event).cached orgId = some broker ↔
      rotating.cached orgId = some broker ∨
        ∃ readFails call, event = .execute readFails call ∧
          FirstLookup globalEnv rotating readFails call orgId broker := by
  cases event with
  | request request => simp [step, cached]
  | execute readFails call =>
      change (rotating.system.perform ((rotating.app globalEnv).wire readFails
        call)).coordinator.brokerCache.get? orgId = some broker ↔ _
      by_cases reached : ∃ ledger, ReachesBroker rotating.system call.env call.intent ledger
      · obtain ⟨ledger, reaches⟩ := reached
        rw [App.get?_brokerCache_of_reaches (App.reachesBroker_wire.mpr reaches), App.wire_intent]
        by_cases own : orgId = call.intent.orgId
        · subst own
          rw [if_pos rfl, toOption_eq_some_iff]
          unfold TradeCoordinator.brokerFor
          rw [factory_wire]
          cases held : rotating.system.coordinator.brokerCache.get? call.intent.orgId with
          | some other =>
              constructor
              · exact fun same => Or.inl (held.trans (congrArg some (Except.ok.inj same)))
              · rintro (kept | ⟨_, _, -, first⟩)
                · exact congrArg Except.ok (Option.some.inj (held.symm.trans kept))
                · exact absurd (held.symm.trans first.uncached) nofun
          | none =>
              constructor
              · intro resolved
                refine Or.inr ⟨readFails, call, rfl, rfl, ⟨ledger, reaches⟩, held, ?_⟩
                cases builds : rotating.built globalEnv readFails call.intent.orgId with
                | error text => simp [builds] at resolved
                | ok built => simpa [builds] using resolved
              · rintro (kept | ⟨_, _, ⟨⟩, first⟩)
                · exact absurd (held.symm.trans kept) nofun
                · rw [first.builds]
        · rw [if_neg own]
          refine ⟨Or.inl, ?_⟩
          rintro (kept | ⟨_, _, ⟨⟩, first⟩)
          · exact kept
          · exact absurd first.own.symm own
      · rw [App.brokerCache_of_unreached fun ledger reaches =>
          reached ⟨ledger, App.reachesBroker_wire.mp reaches⟩]
        refine ⟨Or.inl, ?_⟩
        rintro (kept | ⟨_, _, ⟨⟩, first⟩)
        · exact kept
        · exact absurd first.reaches reached

/-- A submitted order goes through the broker that is kept from then on. -/
theorem cached_of_submitted (deployFlag : Bool) {rotating : RotatingApp} {readFails : Bool}
    {call : Call AlpacaAdapter} {broker : AlpacaAdapter} {order : OrderRequest}
    (submits : rotating.submitted globalEnv readFails call = some (broker, order)) :
    (step deployFlag globalEnv rotating (.execute readFails call)).cached call.intent.orgId =
      some broker := by
  obtain ⟨-, ledger, prices, passed⟩ := submitted_iff.mp submits
  change (rotating.system.perform ((rotating.app globalEnv).wire readFails
    call)).coordinator.brokerCache.get? call.intent.orgId = some broker
  rw [App.get?_brokerCache_of_reaches passed.toReachesBroker, App.wire_intent, if_pos rfl,
    toOption_eq_some_iff]
  exact passed.resolved

/-! ### Runs -/

/-- The secrets follow the requests of the run and nothing else. -/
theorem secrets_run (start : RotatingApp) (events : List RotationEvent) :
    (run (step deployFlag globalEnv) start events).secrets =
      run (Dashboard.SecretRequest.step deployFlag) start.secrets (requestsOf events) :=
  run_view (step deployFlag globalEnv) RotatingApp.secrets
    (fun rotating event _ => by cases event <;> rfl) start

/-- A broker that is kept is kept for the rest of the run. -/
theorem cached_run {start : RotatingApp} {orgId : OrgId} {broker : AlpacaAdapter}
    (kept : start.cached orgId = some broker) (events : List RotationEvent) :
    (run (step deployFlag globalEnv) start events).cached orgId = some broker := by
  induction events generalizing start with
  | nil => exact kept
  | cons event rest inductionHypothesis =>
      exact inductionHypothesis ((cached_step_iff start event orgId broker).mpr (Or.inl kept))

/-- The broker that is kept after a run was kept before it, or its first lookup is
one of the events. -/
theorem exists_firstLookup {start : RotatingApp} {events : List RotationEvent} {orgId : OrgId}
    {broker : AlpacaAdapter} (uncached : start.cached orgId = none)
    (kept : (run (step deployFlag globalEnv) start events).cached orgId = some broker) :
    ∃ before readFails call after, events = before ++ .execute readFails call :: after ∧
      FirstLookup globalEnv (run (step deployFlag globalEnv) start before) readFails call orgId
        broker := by
  induction events using List.reverseRecOn with
  | nil => exact absurd (uncached.symm.trans kept) nofun
  | append_singleton events event inductionHypothesis =>
      rw [run_concat, cached_step_iff] at kept
      rcases kept with earlier | ⟨readFails, call, rfl, first⟩
      · obtain ⟨before, readFails, call, after, rfl, first⟩ := inductionHypothesis earlier
        exact ⟨before, readFails, call, after ++ [event], by simp, first⟩
      · exact ⟨events, readFails, call, [], rfl, first⟩

/-- Every order of an organisation goes through the account that its first order was
given when it looked the broker up, whatever its administrators change afterwards: the
one that the credentials named then, or the global one if their read failed or found
none that are complete. -/
theorem orders_keep_account {start : RotatingApp} {events : List RotationEvent}
    {readFails : Bool} {call : Call AlpacaAdapter} {broker : AlpacaAdapter} {order : OrderRequest}
    (fresh : start.cached call.intent.orgId = none)
    (submits : (run (step deployFlag globalEnv) start events).submitted globalEnv readFails call =
      some (broker, order)) :
    (∃ before failed first after,
        events ++ [.execute readFails call] = before ++ .execute failed first :: after ∧
        FirstLookup globalEnv (run (step deployFlag globalEnv) start before) failed first
          call.intent.orgId broker ∧
        (if failed = true then globalEnv.fallback call.intent.orgId
          else (Dashboard.accountAfter start.secrets (requestsOf before) call.intent.orgId).elim
            (globalEnv.fallback call.intent.orgId) .ok) = .ok broker) ∧
      ∀ later failed next other order, next.intent.orgId = call.intent.orgId →
        (run (step deployFlag globalEnv) start
            (events ++ .execute readFails call :: later)).submitted globalEnv failed next =
          some (other, order) → other = broker := by
  have kept := cached_of_submitted deployFlag submits
  rw [← run_concat (step deployFlag globalEnv)] at kept
  refine ⟨?_, ?_⟩
  · obtain ⟨before, failed, first, after, cut, lookup⟩ := exists_firstLookup fresh kept
    refine ⟨before, failed, first, after, cut, lookup, ?_⟩
    rw [← lookup.builds, built, makeBrokerFactory_eq, secrets_run, Dashboard.get?_secrets_run]
    rfl
  · intro later failed next other order same again
    have still := cached_of_submitted deployFlag again
    have cut : events ++ .execute readFails call :: later ++ [.execute failed next] =
        events ++ [.execute readFails call] ++ (later ++ [.execute failed next]) := by simp
    rw [same, ← run_concat (step deployFlag globalEnv), cut, run_append, cached_run kept] at still
    exact (Option.some.inj still).symm

/-- An organisation with a secret of its own, and a global account. -/
def ownSecret : RotatingApp where
  secrets := Dict.empty.set (secretNameFor "org") { apiKey := some "old", secretKey := some "old" }
  system := App.oneBot

/-- Its administrator submits other credentials. -/
def rotation : Dashboard.SecretRequest where
  principal := some ⟨"ada", "ada@x", Dict.empty.set "org" .orgadmin, false⟩
  orgId := "org"
  change := .put ⟨"new", "new", true⟩ .stored .stored

/-- An order after the credentials were changed still goes through the old account,
which the dashboard no longer shows. -/
theorem orders_keep_account_rotated :
    Dashboard.accountAfter ownSecret.secrets [rotation] "org" = some ⟨"new", "new", true⟩ ∧
      ∀ other order,
        (run (step false App.twoAccounts.globalEnv) ownSecret
            ([] ++ .execute false App.oneShare :: [.request rotation])).submitted
            App.twoAccounts.globalEnv false App.oneShare = some (other, order) →
          other = ⟨"old", "old", true⟩ := by
  have submits : ownSecret.submitted App.twoAccounts.globalEnv false App.oneShare =
      some (⟨"old", "old", true⟩, ⟨"AAPL", .buy, 1, .market, none, .day⟩) := by decide +kernel
  refine ⟨by decide +kernel, fun other order again => ?_⟩
  have keeps := @orders_keep_account false App.twoAccounts.globalEnv ownSecret []
  exact (keeps (by decide +kernel) submits).2 [.request rotation] false App.oneShare other order
    rfl again

end RotatingApp

end TradingStrands
