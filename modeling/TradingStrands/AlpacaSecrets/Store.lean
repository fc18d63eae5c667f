import TradingStrands.App.BrokerFactory
import TradingStrands.Foundation.PutFate

/-!
Owns the store of the organisations' Alpaca credentials: the write that creates a
secret or overwrites it, its removal, and the status the dashboard shows. The
status names a configured account exactly when the broker factory would build
the organisation's own adapter from the same secret.

The secrets are what the service holds. The text of a secret is a JSON object of
texts: what the store itself writes.
-/

namespace TradingStrands

open TradingStrands.Foundation

/-- What the dashboard needs to decide how to render. -/
structure AlpacaCredsStatus where
  configured : Bool
  paper : Option Bool
deriving DecidableEq, Repr

/-- What an orgadmin submits. -/
structure AlpacaCredsSubmit where
  apiKey : String
  secretKey : String
  paper : Bool := true
deriving DecidableEq, Repr

namespace AlpacaSecretsStore

/-- The secrets by name. -/
abbrev Secrets := Dict String SecretPayload

/-- The secret that is written for what was submitted. -/
def payloadOf (creds : AlpacaCredsSubmit) : SecretPayload :=
  { apiKey := some creds.apiKey
    secretKey := some creds.secretKey
    paper := some (if creds.paper = true then "true" else "false") }

/-- Create or overwrite the secret for this org. The second call is made only
where the first was answered that the secret exists. -/
def upsert (secrets : Secrets) (orgId : OrgId) (creds : AlpacaCredsSubmit)
    (createSecret putSecretValue : PutFate) : Except PyError Unit × Secrets :=
  let name := secretNameFor orgId
  let write := fun held : Secrets => held.set name (payloadOf creds)
  match secrets.get? name with
  | none => createSecret.put write secrets
  | some _ =>
      match createSecret with
      | .raises error _ => (.error error, secrets)
      | .stored => putSecretValue.put write secrets

/-- Remove the credentials of an org; a secret that is not there is removed too. -/
def delete (secrets : Secrets) (orgId : OrgId) (deleteSecret : PutFate) :
    Except PyError Unit × Secrets :=
  deleteSecret.put (fun held => held.erase (secretNameFor orgId)) secrets

/-- What the dashboard is told about a secret. -/
def statusOf : Option SecretPayload → AlpacaCredsStatus
  | none => ⟨false, none⟩
  | some payload =>
      if payload.Complete then ⟨true, some payload.adapter.paper⟩ else ⟨false, none⟩

/-- Whether this org has credentials and their paper/live mode; a read that fails
raises. -/
def status (secrets : Secrets) (orgId : OrgId) (failure : Option PyError) :
    Except PyError AlpacaCredsStatus :=
  match failure with
  | some error => .error error
  | none => .ok (statusOf (secrets.get? (secretNameFor orgId)))

/-- What the broker factory reads. -/
def getSecretValue (secrets : Secrets) (readFails : Bool) (name : String) : SecretRead :=
  if readFails = true then .failed
  else ((secrets.get? name).map SecretRead.found).getD .resourceNotFound

/-! ### What the calls leave -/

/-- An upsert is kept by its first call where there is no secret, and by its
second where there is one. -/
def upsertKept (held : Option SecretPayload) (createSecret putSecretValue : PutFate) : Bool :=
  match held with
  | none => createSecret.keeps
  | some _ => decide (createSecret = .stored) && putSecretValue.keeps

theorem upsert_eq (secrets : Secrets) (orgId : OrgId) (creds : AlpacaCredsSubmit)
    (createSecret putSecretValue : PutFate) :
    (upsert secrets orgId creds createSecret putSecretValue).2 =
      if upsertKept (secrets.get? (secretNameFor orgId)) createSecret putSecretValue = true then
        secrets.set (secretNameFor orgId) (payloadOf creds)
      else secrets := by
  unfold upsert upsertKept
  dsimp only
  cases secrets.get? (secretNameFor orgId) with
  | none => exact PutFate.snd_put _ _ _
  | some held =>
      cases createSecret with
      | stored =>
          dsimp only
          rw [PutFate.snd_put, decide_eq_true rfl, Bool.true_and]
      | raises error kept => rfl

/-- An upsert that is answered is kept. -/
theorem upsertKept_of_ok {secrets : Secrets} {orgId : OrgId} (creds : AlpacaCredsSubmit)
    {createSecret putSecretValue : PutFate}
    (answered : (upsert secrets orgId creds createSecret putSecretValue).1 = .ok ()) :
    upsertKept (secrets.get? (secretNameFor orgId)) createSecret putSecretValue = true := by
  unfold upsert at answered
  dsimp only at answered
  unfold upsertKept
  cases held : secrets.get? (secretNameFor orgId) with
  | none =>
      rw [held] at answered
      exact PutFate.keeps_of_ok answered
  | some payload =>
      rw [held] at answered
      cases createSecret with
      | raises error kept => exact absurd answered (fun same => nomatch same)
      | stored => exact PutFate.keeps_of_ok answered

theorem get?_upsert (secrets : Secrets) (orgId other : OrgId) (creds : AlpacaCredsSubmit)
    (createSecret putSecretValue : PutFate) :
    (upsert secrets orgId creds createSecret putSecretValue).2.get? (secretNameFor other) =
      if other = orgId ∧
          upsertKept (secrets.get? (secretNameFor orgId)) createSecret putSecretValue = true then
        some (payloadOf creds)
      else secrets.get? (secretNameFor other) := by
  rw [upsert_eq]
  by_cases kept : upsertKept (secrets.get? (secretNameFor orgId)) createSecret putSecretValue = true
  · simp only [kept, if_true, and_true, Dict.get?_set, secretNameFor_inj]
  · rw [if_neg kept, if_neg fun both => kept both.2]

theorem get?_delete (secrets : Secrets) (orgId other : OrgId) (deleteSecret : PutFate) :
    (delete secrets orgId deleteSecret).2.get? (secretNameFor other) =
      if other = orgId ∧ deleteSecret.keeps = true then none
      else secrets.get? (secretNameFor other) := by
  unfold delete
  rw [PutFate.snd_put]
  by_cases kept : deleteSecret.keeps = true
  · by_cases same : other = orgId
    · simp [kept, same]
    · have different : secretNameFor other ≠ secretNameFor orgId := fun names =>
        same (secretNameFor_inj.mp names)
      simp [kept, same, Dict.get?_erase_of_ne _ different]
  · simp [kept]

/-! ### The account of a secret -/

/-- The organisation's own account, where the secret has both keys. -/
def accountOf : Option SecretPayload → Option AlpacaAdapter
  | none => none
  | some payload => if payload.Complete then some payload.adapter else none

theorem statusOf_eq (held : Option SecretPayload) :
    statusOf held = ⟨(accountOf held).isSome, (accountOf held).map (·.paper)⟩ := by
  unfold statusOf accountOf
  cases held with
  | none => rfl
  | some payload =>
      by_cases complete : payload.Complete
      · simp [complete]
      · simp [complete]

/-- The factory builds the account of the secret it can read, and falls back to
the global one otherwise. -/
theorem makeBrokerFactory_eq (globalEnv : GlobalEnv) (secrets : Secrets) (readFails : Bool)
    (orgId : OrgId) :
    makeBrokerFactory globalEnv (some (getSecretValue secrets readFails)) orgId =
      if readFails = true then globalEnv.fallback orgId
      else (accountOf (secrets.get? (secretNameFor orgId))).elim (globalEnv.fallback orgId) .ok := by
  unfold makeBrokerFactory getSecretValue accountOf
  cases readFails with
  | true => rfl
  | false =>
      cases found : secrets.get? (secretNameFor orgId) with
      | none => simp [found]
      | some payload =>
          by_cases complete : payload.Complete
          · simp [found, complete]
          · simp [found, complete]

/-- The flag that is written is the flag that is read. -/
theorem paper_payloadOf (creds : AlpacaCredsSubmit) :
    (payloadOf creds).adapter.paper = creds.paper := by
  have lower : "true".toLower = "true" ∧ "false".toLower = "false" := by decide +kernel
  unfold payloadOf SecretPayload.adapter
  cases creds.paper with
  | true => simp [lower.1]
  | false => simp [lower.2]

/-- A secret that was written is complete exactly when both keys were submitted. -/
theorem accountOf_payloadOf (creds : AlpacaCredsSubmit) :
    accountOf (some (payloadOf creds)) =
      if creds.apiKey ≠ "" ∧ creds.secretKey ≠ "" then
        some ⟨creds.apiKey, creds.secretKey, creds.paper⟩
      else none := by
  have adapter : (payloadOf creds).adapter = ⟨creds.apiKey, creds.secretKey, creds.paper⟩ := by
    rw [← paper_payloadOf creds]
    rfl
  unfold accountOf
  rw [← adapter]
  rfl

end AlpacaSecretsStore

end TradingStrands
