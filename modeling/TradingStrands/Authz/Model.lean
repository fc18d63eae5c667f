import TradingStrands.Foundation.Dict
import TradingStrands.Ledger.Models

/-!
Owns the types of an authorization question: per-organisation roles, the kinds
of resources and actions, the resource asked for, the principal that asks and
the permission it gets.
-/

namespace TradingStrands

open TradingStrands.Foundation

abbrev UserId : Type := String

/-- What a user may do in one organisation. The sysadmin flag is no role. -/
inductive Role
  | viewer
  | operator
  | auditor
  | orgadmin
deriving DecidableEq, Repr

def Role.value : Role → String
  | .viewer => "viewer"
  | .operator => "operator"
  | .auditor => "auditor"
  | .orgadmin => "orgadmin"

inductive ResourceType
  | strategy
  | org
  | user
  | alpacaSecret
  | costData
  | infraTelemetry
  | marketData
  | systemConfig
deriving DecidableEq, Repr

def ResourceType.value : ResourceType → String
  | .strategy => "strategy"
  | .org => "org"
  | .user => "user"
  | .alpacaSecret => "alpaca_secret"
  | .costData => "cost_data"
  | .infraTelemetry => "infra_telemetry"
  | .marketData => "market_data"
  | .systemConfig => "system_config"

inductive Action
  | read
  | list
  | create
  | update
  | delete
deriving DecidableEq, Repr

/-- What the principal wants to act on. Without an organisation it is
system-wide. -/
structure Resource where
  type : ResourceType
  orgId : Option OrgId := none
  authorUserId : Option UserId := none
  delegatedUserIds : Finset UserId := ∅

/-- The actor, with its role in each organisation it is a member of. -/
structure Principal where
  userId : UserId
  email : String
  memberships : Dict OrgId Role
  sysadmin : Bool := false

structure Permission where
  allowed : Bool
  reason : String
deriving DecidableEq, Repr

end TradingStrands
