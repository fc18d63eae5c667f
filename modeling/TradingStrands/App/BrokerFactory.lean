import TradingStrands.Coordinator.Coordinator

/-!
Owns the broker factory of the application: which credentials an organisation's
adapter is built from. The organisation's own secret comes first; whenever it
cannot be used, for whatever reason, the global credentials do.

The secret store is an input: what it answers for a secret name.
-/

namespace TradingStrands

open TradingStrands.Foundation

/-- An adapter is what it was built from. -/
structure AlpacaAdapter where
  apiKey : String
  secretKey : String
  paper : Bool
deriving DecidableEq, Repr

/-- The JSON object of a secret; an absent key is absent. -/
structure SecretPayload where
  apiKey : Option String := none
  secretKey : Option String := none
  paper : Option String := none
deriving DecidableEq, Repr

/-- What reading a secret comes to. A read that raises, and a text that is not
a JSON object, are failures. -/
inductive SecretRead
  | found (payload : SecretPayload)
  | resourceNotFound
  | failed
deriving DecidableEq, Repr

structure GlobalEnv where
  alpacaApiKey : String := ""
  alpacaSecretKey : String := ""
  alpacaPaper : String := "true"
deriving DecidableEq, Repr

/-- The secret name of an organisation. -/
def secretNameFor (orgId : OrgId) : String := "trading-strands/org" ++ "/" ++ orgId ++ "/alpaca"

namespace SecretPayload

/-- Both keys are there and not empty. -/
def Complete (payload : SecretPayload) : Prop :=
  payload.apiKey.getD "" ≠ "" ∧ payload.secretKey.getD "" ≠ ""

instance (payload : SecretPayload) : Decidable payload.Complete := by
  unfold Complete
  infer_instance

/-- The adapter built from an organisation's own credentials. -/
def adapter (payload : SecretPayload) : AlpacaAdapter :=
  { apiKey := payload.apiKey.getD ""
    secretKey := payload.secretKey.getD ""
    paper := ["true", "1", "yes"].contains (payload.paper.getD "true").toLower }

end SecretPayload

namespace GlobalEnv

def Configured (globalEnv : GlobalEnv) : Prop :=
  globalEnv.alpacaApiKey ≠ "" ∧ globalEnv.alpacaSecretKey ≠ ""

instance (globalEnv : GlobalEnv) : Decidable globalEnv.Configured := by
  unfold Configured
  infer_instance

/-- The adapter of the global account. -/
def adapter (globalEnv : GlobalEnv) : AlpacaAdapter :=
  { apiKey := globalEnv.alpacaApiKey
    secretKey := globalEnv.alpacaSecretKey
    paper := globalEnv.alpacaPaper.toLower = "true" }

/-- Fallback: global credentials. Always used in local mode. -/
def fallback (globalEnv : GlobalEnv) (orgId : OrgId) : Except String AlpacaAdapter :=
  if globalEnv.Configured then .ok globalEnv.adapter
  else .error ("no credentials available for org " ++ orgId ++
    " (per-org secret missing AND no global fallback configured)")

end GlobalEnv

/-- The factory `_make_broker_factory` returns; without a secrets client every
organisation gets the global credentials. -/
def makeBrokerFactory (globalEnv : GlobalEnv) (getSecretValue : Option (String → SecretRead))
    (orgId : OrgId) : Except String AlpacaAdapter :=
  match getSecretValue with
  | none => globalEnv.fallback orgId
  | some read =>
      match read (secretNameFor orgId) with
      | .found payload =>
          if payload.Complete then .ok payload.adapter else globalEnv.fallback orgId
      | .resourceNotFound => globalEnv.fallback orgId
      | .failed => globalEnv.fallback orgId

theorem secretNameFor_inj {left right : OrgId} :
    secretNameFor left = secretNameFor right ↔ left = right := by
  unfold secretNameFor
  rw [← String.toList_inj]
  simp only [String.toList_append, List.append_cancel_left_eq, List.append_cancel_right_eq,
    String.toList_inj]

end TradingStrands
