import TradingStrands.AlpacaSecrets.Store
import TradingStrands.Authz.Isolation
import TradingStrands.Ddb.Operations
import TradingStrands.Foundation.Runs

/-!
Owns the endpoints of the organisations' Alpaca credentials and what a run of them
leaves. The secret of an organisation follows the writes and removals that its own
administrators ask for, those whose calls are kept, and nothing else; the status the
dashboard shows and the account the trading service builds are two views of it.

Does not own: how the principal is read from the session; it is an input.
-/

namespace TradingStrands

open TradingStrands.Foundation AlpacaSecretsStore

/-- What an endpoint can raise. -/
inductive EndpointError
  | http (exception : HttpException)
  | raised (error : PyError)
deriving DecidableEq, Repr

/-- What the endpoints answer. -/
structure AlpacaCredsOut where
  orgId : OrgId
  configured : Bool
  paper : Option Bool
deriving DecidableEq, Repr

namespace Dashboard

/-- Check authorization on the credentials of an organisation. -/
def requireSecret (deployFlag : Bool) (principal : Option Principal) (action : Action)
    (orgId : OrgId) : Except EndpointError Unit :=
  match principal with
  | none => .error (.http ⟨401, "Authentication required"⟩)
  | some principal =>
      match Authz.require deployFlag principal action { type := .alpacaSecret, orgId := some orgId }
      with
      | .ok () => .ok ()
      | .error reason => .error (.http ⟨403, reason⟩)

def getAlpacaStatus (deployFlag : Bool) (secrets : Secrets) (principal : Option Principal)
    (orgId : OrgId) (failure : Option PyError) : Except EndpointError AlpacaCredsOut :=
  match requireSecret deployFlag principal .read orgId with
  | .error error => .error error
  | .ok () =>
      match status secrets orgId failure with
      | .error error => .error (.raised error)
      | .ok status => .ok ⟨orgId, status.configured, status.paper⟩

def putAlpacaCreds (deployFlag : Bool) (secrets : Secrets) (principal : Option Principal)
    (orgId : OrgId) (body : AlpacaCredsSubmit) (createSecret putSecretValue : PutFate) :
    Except EndpointError AlpacaCredsOut × Secrets :=
  match requireSecret deployFlag principal .update orgId with
  | .error error => (.error error, secrets)
  | .ok () =>
      match upsert secrets orgId body createSecret putSecretValue with
      | (.error error, after) => (.error (.raised error), after)
      | (.ok (), after) => (.ok ⟨orgId, true, some body.paper⟩, after)

def deleteAlpacaCreds (deployFlag : Bool) (secrets : Secrets) (principal : Option Principal)
    (orgId : OrgId) (deleteSecret : PutFate) : Except EndpointError Unit × Secrets :=
  match requireSecret deployFlag principal .delete orgId with
  | .error error => (.error error, secrets)
  | .ok () =>
      match delete secrets orgId deleteSecret with
      | (.error error, after) => (.error (.raised error), after)
      | (.ok (), after) => (.ok (), after)

/-! ### Runs -/

/-- What a request asks to become of a secret, with what becomes of its calls. -/
inductive SecretChange
  | put (body : AlpacaCredsSubmit) (createSecret putSecretValue : PutFate)
  | delete (deleteSecret : PutFate)

/-- One request for the credentials of an organisation. -/
structure SecretRequest where
  principal : Option Principal
  orgId : OrgId
  change : SecretChange

namespace SecretRequest

/-- What one request leaves of the secrets. -/
def step (deployFlag : Bool) (secrets : Secrets) (request : SecretRequest) : Secrets :=
  match request.change with
  | .put body createSecret putSecretValue =>
      (putAlpacaCreds deployFlag secrets request.principal request.orgId body createSecret
        putSecretValue).2
  | .delete deleteSecret =>
      (deleteAlpacaCreds deployFlag secrets request.principal request.orgId deleteSecret).2

/-- The request comes from an administrator of the organisation. -/
def ByOrgadmin (request : SecretRequest) : Prop :=
  ∃ principal, request.principal = some principal ∧
    principal.memberships.get? request.orgId = some .orgadmin

instance (request : SecretRequest) : Decidable request.ByOrgadmin :=
  match found : request.principal with
  | none => isFalse (by simp [ByOrgadmin, found])
  | some principal =>
      decidable_of_iff (principal.memberships.get? request.orgId = some .orgadmin)
        (by simp [ByOrgadmin, found])

/-- The change a request makes to the credentials of an organisation. -/
def changeOf? (orgId : OrgId) (request : SecretRequest) : Option SecretChange :=
  if request.orgId = orgId ∧ request.ByOrgadmin then some request.change else none

end SecretRequest

/-- What a change leaves of the secret it is about. -/
def SecretChange.follow (held : Option SecretPayload) : SecretChange → Option SecretPayload
  | .put body createSecret putSecretValue =>
      if upsertKept held createSecret putSecretValue = true then some (payloadOf body) else held
  | .delete deleteSecret => if deleteSecret.keeps = true then none else held

/-- The endpoints let the administrators of the organisation through, and nobody
else. -/
theorem requireSecret_ok_iff {deployFlag : Bool} (request : SecretRequest) (action : Action) :
    requireSecret deployFlag request.principal action request.orgId = .ok () ↔
      request.ByOrgadmin := by
  unfold requireSecret SecretRequest.ByOrgadmin
  cases request.principal with
  | none => simp
  | some principal =>
      have allowed : (Authz.can deployFlag principal action
            { type := .alpacaSecret, orgId := some request.orgId }).allowed = true ↔
          principal.memberships.get? request.orgId = some .orgadmin := by
        rw [Authz.alpacaSecret_allowed_iff rfl]
        exact decide_eq_true_iff
      simp only [Option.some.injEq, exists_eq_left', ← allowed, Authz.require]
      by_cases passes : (Authz.can deployFlag principal action
          { type := .alpacaSecret, orgId := some request.orgId }).allowed = true
      · simp only [passes, if_true]
      · simp [passes]

theorem snd_putAlpacaCreds (deployFlag : Bool) (secrets : Secrets) (principal : Option Principal)
    (orgId : OrgId) (body : AlpacaCredsSubmit) (createSecret putSecretValue : PutFate) :
    (putAlpacaCreds deployFlag secrets principal orgId body createSecret putSecretValue).2 =
      if requireSecret deployFlag principal .update orgId = .ok () then
        (upsert secrets orgId body createSecret putSecretValue).2
      else secrets := by
  unfold putAlpacaCreds
  rcases requireSecret deployFlag principal .update orgId with error | ⟨⟩
  · simp
  · rcases upsert secrets orgId body createSecret putSecretValue with ⟨_ | _, after⟩ <;> simp

theorem snd_deleteAlpacaCreds (deployFlag : Bool) (secrets : Secrets)
    (principal : Option Principal) (orgId : OrgId) (deleteSecret : PutFate) :
    (deleteAlpacaCreds deployFlag secrets principal orgId deleteSecret).2 =
      if requireSecret deployFlag principal .delete orgId = .ok () then
        (delete secrets orgId deleteSecret).2
      else secrets := by
  unfold deleteAlpacaCreds
  rcases requireSecret deployFlag principal .delete orgId with error | ⟨⟩
  · simp
  · rcases delete secrets orgId deleteSecret with ⟨_ | _, after⟩ <;> simp

/-- What one request leaves of the secret of an organisation. -/
theorem get?_step (deployFlag : Bool) (secrets : Secrets) (request : SecretRequest)
    (orgId : OrgId) :
    (request.step deployFlag secrets).get? (secretNameFor orgId) =
      run SecretChange.follow (secrets.get? (secretNameFor orgId))
        (request.changeOf? orgId).toList := by
  unfold SecretRequest.changeOf?
  by_cases own : request.orgId = orgId ∧ request.ByOrgadmin
  · obtain ⟨rfl, admin⟩ := own
    rw [if_pos ⟨rfl, admin⟩, Option.toList_some, run_cons, run_nil]
    unfold SecretRequest.step
    cases request.change with
    | put body createSecret putSecretValue =>
        dsimp only [SecretChange.follow]
        rw [snd_putAlpacaCreds, if_pos ((requireSecret_ok_iff request .update).mpr admin), get?_upsert]
        simp only [true_and]
    | delete deleteSecret =>
        dsimp only [SecretChange.follow]
        rw [snd_deleteAlpacaCreds, if_pos ((requireSecret_ok_iff request .delete).mpr admin), get?_delete]
        simp only [true_and]
  · rw [if_neg own, Option.toList_none, run_nil]
    unfold SecretRequest.step
    cases request.change with
    | put body createSecret putSecretValue =>
        dsimp only
        rw [snd_putAlpacaCreds]
        split
        next passes =>
          have admin := (requireSecret_ok_iff request .update).mp passes
          rw [get?_upsert, if_neg fun both => own ⟨both.1.symm, admin⟩]
        next => rfl
    | delete deleteSecret =>
        dsimp only
        rw [snd_deleteAlpacaCreds]
        split
        next passes =>
          have admin := (requireSecret_ok_iff request .delete).mp passes
          rw [get?_delete, if_neg fun both => own ⟨both.1.symm, admin⟩]
        next => rfl

/-- The secret of an organisation follows the changes its administrators make. -/
theorem get?_secrets_run (deployFlag : Bool) (start : Secrets) (requests : List SecretRequest)
    (orgId : OrgId) :
    (run (SecretRequest.step deployFlag) start requests).get? (secretNameFor orgId) =
      run SecretChange.follow (start.get? (secretNameFor orgId))
        (requests.filterMap (·.changeOf? orgId)) :=
  run_view (SecretRequest.step deployFlag) (fun secrets => secrets.get? (secretNameFor orgId))
    (fun secrets request _ => get?_step deployFlag secrets request orgId) start

/-- The account an organisation has after a run of requests: what the changes of its
own administrators leave. -/
def accountAfter (start : Secrets) (requests : List SecretRequest) (orgId : OrgId) :
    Option AlpacaAdapter :=
  accountOf (run SecretChange.follow (start.get? (secretNameFor orgId))
    (requests.filterMap (·.changeOf? orgId)))

/-- An administrator's last change decides the account. -/
theorem accountAfter_concat (start : Secrets) (requests : List SecretRequest)
    {request : SecretRequest} (admin : request.ByOrgadmin) :
    accountAfter start (requests ++ [request]) request.orgId =
      accountOf (request.change.follow
        (run SecretChange.follow (start.get? (secretNameFor request.orgId))
          (requests.filterMap (·.changeOf? request.orgId)))) := by
  have mine : request.changeOf? request.orgId = some request.change := if_pos ⟨rfl, admin⟩
  unfold accountAfter
  rw [List.filterMap_append, List.filterMap_cons_some mine, List.filterMap_nil, run_concat]

/-- A put that is answered passed the check, and its write is kept. -/
theorem of_putAlpacaCreds_ok {deployFlag : Bool} {secrets : Secrets} {principal : Option Principal}
    {orgId : OrgId} {body : AlpacaCredsSubmit} {createSecret putSecretValue : PutFate}
    {out : AlpacaCredsOut}
    (answered : (putAlpacaCreds deployFlag secrets principal orgId body createSecret
      putSecretValue).1 = .ok out) :
    requireSecret deployFlag principal .update orgId = .ok () ∧
      upsertKept (secrets.get? (secretNameFor orgId)) createSecret putSecretValue = true := by
  unfold putAlpacaCreds at answered
  rcases passes : requireSecret deployFlag principal .update orgId with error | ⟨⟩
  · rw [passes] at answered
    exact absurd answered nofun
  · rw [passes] at answered
    refine ⟨rfl, upsertKept_of_ok body ?_⟩
    rcases wrote : upsert secrets orgId body createSecret putSecretValue with ⟨error | ⟨⟩, after⟩
    · simp [wrote] at answered
    · rfl

/-- A delete that is answered passed the check, and its removal is kept. -/
theorem of_deleteAlpacaCreds_ok {deployFlag : Bool} {secrets : Secrets}
    {principal : Option Principal} {orgId : OrgId} {deleteSecret : PutFate}
    (answered : (deleteAlpacaCreds deployFlag secrets principal orgId deleteSecret).1 = .ok ()) :
    requireSecret deployFlag principal .delete orgId = .ok () ∧ deleteSecret.keeps = true := by
  unfold deleteAlpacaCreds at answered
  rcases passes : requireSecret deployFlag principal .delete orgId with error | ⟨⟩
  · rw [passes] at answered
    exact absurd answered nofun
  · rw [passes] at answered
    refine ⟨rfl, ?_⟩
    unfold delete at answered
    cases deleteSecret with
    | stored => rfl
    | raises error kept => exact absurd answered nofun

/-- The status the dashboard shows an administrator and the adapter the trading
service builds both tell the account that the administrators' changes leave. An
answered write is in that account at once, though it answers that the organisation
is configured where a key is empty too. -/
theorem credentials_run (deployFlag : Bool) (globalEnv : GlobalEnv) (start : Secrets)
    (requests : List SecretRequest) (orgId : OrgId) :
    let secrets := run (SecretRequest.step deployFlag) start requests
    let account := accountAfter start requests orgId
    (∀ principal : Principal, principal.memberships.get? orgId = some .orgadmin →
        getAlpacaStatus deployFlag secrets (some principal) orgId none =
          .ok ⟨orgId, account.isSome, account.map (·.paper)⟩) ∧
      makeBrokerFactory globalEnv (some (getSecretValue secrets false)) orgId =
        account.elim (globalEnv.fallback orgId) .ok ∧
      (∀ principal body createSecret putSecretValue out,
        (putAlpacaCreds deployFlag secrets principal orgId body createSecret putSecretValue).1 =
            .ok out →
          out = ⟨orgId, true, some body.paper⟩ ∧
            accountAfter start
                (requests ++ [⟨principal, orgId, .put body createSecret putSecretValue⟩]) orgId =
              if body.apiKey ≠ "" ∧ body.secretKey ≠ "" then
                some ⟨body.apiKey, body.secretKey, body.paper⟩
              else none) ∧
      ∀ principal deleteSecret,
        (deleteAlpacaCreds deployFlag secrets principal orgId deleteSecret).1 = .ok () →
          accountAfter start (requests ++ [⟨principal, orgId, .delete deleteSecret⟩]) orgId =
            none := by
  intro secrets account
  have held := get?_secrets_run deployFlag start requests orgId
  refine ⟨?_, ?_, ?_, ?_⟩
  · intro principal admin
    have passes : requireSecret deployFlag (some principal) .read orgId = .ok () :=
      (requireSecret_ok_iff ⟨some principal, orgId, .delete .stored⟩ .read).mpr
        ⟨principal, rfl, admin⟩
    unfold getAlpacaStatus status
    rw [passes]
    dsimp only
    rw [held, statusOf_eq]
    rfl
  · rw [makeBrokerFactory_eq, if_neg Bool.false_ne_true, held]
    rfl
  · intro principal body createSecret putSecretValue out answered
    obtain ⟨passes, kept⟩ := of_putAlpacaCreds_ok answered
    have admin := (requireSecret_ok_iff
      ⟨principal, orgId, .put body createSecret putSecretValue⟩ .update).mp passes
    refine ⟨?_, ?_⟩
    · unfold putAlpacaCreds at answered
      rcases wrote : upsert secrets orgId body createSecret putSecretValue with
        ⟨error | ⟨⟩, after⟩
      · simp [passes, wrote] at answered
      · simp only [passes, wrote] at answered
        exact (Except.ok.inj answered).symm
    · rw [accountAfter_concat start requests admin]
      rw [held] at kept
      dsimp only [SecretChange.follow]
      rw [if_pos kept, accountOf_payloadOf]
  · intro principal deleteSecret answered
    obtain ⟨passes, kept⟩ := of_deleteAlpacaCreds_ok answered
    have admin := (requireSecret_ok_iff
      ⟨principal, orgId, .delete deleteSecret⟩ .delete).mp passes
    rw [accountAfter_concat start requests admin]
    dsimp only [SecretChange.follow]
    rw [if_pos kept]
    rfl

end Dashboard

end TradingStrands
