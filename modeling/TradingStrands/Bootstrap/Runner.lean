import TradingStrands.Tenancy.Store

/-!
Owns the bootstrap steps: find or create the system organisation and its first
user, and prune strategies of the old schema. Each step decides what to do from
what it finds in the table.

Does not own: the seeding of the system organisation's Alpaca secret, which
comes last and touches the secret store only.
-/

namespace TradingStrands.Bootstrap

open TradingStrands.Foundation TenancyStore TableProgram

def superwomanEmail : String := "superwoman@tradingstrands.xyz"
def systemOrgName : String := "Women with Super Powers"

/-- The ids a run draws and its clock reads. -/
structure Draw where
  orgId : OrgId
  userId : UserId
  orgAt : Int := 0
  userAt : Int := 0
  memberAt : Int := 0
  grantAt : Int := 0

structure Report where
  systemOrg : Org
  systemOrgCreated : Bool
  superwoman : User
  superwomanCreated : Bool
  superwomanMembershipAdded : Bool
  superwomanSysadminGranted : Bool
  legacyStrategiesDeleted : Nat

/-- Return the system organisation, creating it if there is none. -/
def ensureSystemOrg (draw : Draw) : TableProgram (Org × Bool) := do
  match ← findSystemOrg with
  | some existing => return (existing, false)
  | none =>
      let org ← createOrg systemOrgName .system draw.orgId draw.orgAt
      return (org, true)

/-- Find or create superwoman. -/
def ensureUser (normalize : String → String) (draw : Draw) : TableProgram (User × Bool) := do
  match ← findUserByEmail normalize superwomanEmail with
  | some existing => return (existing, false)
  | none =>
      let user ← createUser normalize superwomanEmail none "" draw.userId draw.userAt
      return (user, true)

/-- Add a membership of the system organisation unless there is one. -/
def ensureMembership (user : User) (systemOrg : Org) (draw : Draw) : TableProgram Bool := do
  match ← roleOf user.userId systemOrg.orgId with
  | some _ => return false
  | none =>
      let _ ← addMembership user.userId systemOrg.orgId .orgadmin draw.memberAt
      return true

/-- Grant the sysadmin flag on first creation only, so that a revocation stays
in force. -/
def ensureSysadmin (user : User) (created : Bool) (draw : Draw) : TableProgram Bool :=
  if created = false then return false
  else do
    let already ← isSysadmin user.userId
    if already = true then return false
    else do
      grantSysadmin user.userId draw.grantAt
      return true

def ensureSuperwomanUser (normalize : String → String) (systemOrg : Org) (draw : Draw) :
    TableProgram (User × Bool × Bool × Bool) := do
  let (user, created) ← ensureUser normalize draw
  let membershipAdded ← ensureMembership user systemOrg draw
  let sysadminGranted ← ensureSysadmin user created draw
  return (user, created, membershipAdded, sysadminGranted)

/-- Strategies of the old schema lack an organisation or an author. -/
def isLegacy (item : Item) : Bool :=
  (item.attr? "org_id").isNone || (item.attr? "author_user_id").isNone

def deleteLegacy : List (String × Item) → TableProgram Nat
  | [] => return 0
  | row :: rest =>
      if isLegacy row.2 = true then do
        deleteItem row.1
        let later ← deleteLegacy rest
        return later + 1
      else deleteLegacy rest

def deleteLegacyStrategies : TableProgram Nat := do
  let rows ← scanPrefix "STRATEGY#"
  deleteLegacy rows

def bootstrap (normalize : String → String) (draw : Draw) : TableProgram Report := do
  let (systemOrg, systemOrgCreated) ← ensureSystemOrg draw
  let (superwoman, superwomanCreated, superwomanMembershipAdded, superwomanSysadminGranted) ←
    ensureSuperwomanUser normalize systemOrg draw
  let legacyStrategiesDeleted ← deleteLegacyStrategies
  return { systemOrg, systemOrgCreated, superwoman, superwomanCreated, superwomanMembershipAdded,
           superwomanSysadminGranted, legacyStrategiesDeleted }

end TradingStrands.Bootstrap
