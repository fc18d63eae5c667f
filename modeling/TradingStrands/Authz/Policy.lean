import TradingStrands.Authz.Model

/-!
Owns the authorization decision `can`: a chain of predicates, each of which
allows for one reason or abstains. The first that allows decides; if all
abstain the answer is no. The deploy flag that opens customer data to
sysadmins is an input, read from its environment variable.
-/

namespace TradingStrands.Authz

open TradingStrands.Foundation

abbrev Predicate : Type := Principal → Action → Resource → Option Permission

/-- The deploy flag, from the value of `SYSADMIN_CAN_READ_ORG_DATA`. -/
def sysadminCanReadOrgData (environ : Option String) : Bool :=
  (environ.getD "false").toLower = "true"

/-! ### Membership helpers -/

/-- The role of a member; nobody has a role in a system-wide resource. -/
def roleIn (principal : Principal) : Option OrgId → Option Role
  | none => none
  | some orgId => principal.memberships.get? orgId

def isOrgMember (principal : Principal) (orgId : Option OrgId) : Bool :=
  (roleIn principal orgId).isSome

def isOrgadmin (principal : Principal) (orgId : Option OrgId) : Bool :=
  roleIn principal orgId = some .orgadmin

/-! ### Predicates -/

/-- Alpaca secrets stay closed to sysadmins whatever the deploy flag. -/
def allowSysadminRead (deployFlag : Bool) : Predicate := fun p a r =>
  if p.sysadmin = false then none
  else if a ≠ .read ∧ a ≠ .list then none
  else if r.type = .alpacaSecret then none
  else if r.orgId = none then some ⟨true, "sysadmin reads system resource"⟩
  else if deployFlag = true then some ⟨true, "sysadmin reads org (deploy flag allows)"⟩
  else none

def allowSysadminSystemConfig : Predicate := fun p _ r =>
  if p.sysadmin = false then none
  else if r.type = .systemConfig ∧ r.orgId = none then
    some ⟨true, "sysadmin writes system config"⟩
  else none

def allowStrategyRead : Predicate := fun p a r =>
  if r.type ≠ .strategy then none
  else if a ≠ .read ∧ a ≠ .list then none
  else if isOrgMember p r.orgId = true then some ⟨true, "org member reads strategy"⟩
  else none

/-- Authorship alone is not enough: the author's role in the organisation
has to be one that writes. -/
def allowStrategyAuthorMutate : Predicate := fun p a r =>
  if r.type ≠ .strategy then none
  else if a ≠ .update ∧ a ≠ .delete then none
  else
    match r.authorUserId with
    | none => none
    | some author =>
        let role := roleIn p r.orgId
        if role ≠ some .operator ∧ role ≠ some .orgadmin then none
        else if p.userId = author then some ⟨true, "author mutates own strategy"⟩
        else if p.userId ∈ r.delegatedUserIds then
          some ⟨true, "co-author (ACL) mutates strategy"⟩
        else none

def allowOperatorCreateStrategy : Predicate := fun p a r =>
  if r.type ≠ .strategy ∨ a ≠ .create then none
  else
    match roleIn p r.orgId with
    | some .operator => some ⟨true, Role.operator.value ++ " creates strategy in org"⟩
    | some .orgadmin => some ⟨true, Role.orgadmin.value ++ " creates strategy in org"⟩
    | _ => none

def allowOrgadminAnyStrategy : Predicate := fun p a r =>
  if r.type ≠ .strategy then none
  else if a ≠ .update ∧ a ≠ .delete then none
  else if isOrgadmin p r.orgId = true then
    some ⟨true, "orgadmin mutates strategy in own org"⟩
  else none

def allowOrgadminUserMgmt : Predicate := fun p _ r =>
  if r.type ≠ .user ∧ r.type ≠ .alpacaSecret then none
  else if isOrgadmin p r.orgId = true then
    some ⟨true, "orgadmin manages " ++ r.type.value ++ " in own org"⟩
  else none

def allowSysadminUserMgmt : Predicate := fun p _ r =>
  if p.sysadmin = false then none
  else if r.type = .user then some ⟨true, "sysadmin manages user"⟩
  else none

def allowOrgCreateBySysadmin : Predicate := fun p a r =>
  if r.type = .org ∧ a = .create ∧ p.sysadmin = true then
    some ⟨true, "sysadmin creates org"⟩
  else none

def allowOrgMutateByOrgadmin : Predicate := fun p a r =>
  if r.type ≠ .org then none
  else if (a = .update ∨ a = .delete) ∧ isOrgadmin p r.orgId = true then
    some ⟨true, "orgadmin mutates own org"⟩
  else none

def allowOrgReadByMember : Predicate := fun p a r =>
  if r.type ≠ .org then none
  else if (a = .read ∨ a = .list) ∧ isOrgMember p r.orgId = true then
    some ⟨true, "member reads own org"⟩
  else none

def allowMarketDataRead : Predicate := fun _ a r =>
  if r.type ≠ .marketData then none
  else if a = .read ∨ a = .list then
    some ⟨true, "any authenticated user reads market data"⟩
  else none

def allowChain (deployFlag : Bool) : List Predicate :=
  [allowSysadminRead deployFlag, allowSysadminSystemConfig, allowSysadminUserMgmt,
    allowStrategyAuthorMutate, allowOrgadminAnyStrategy, allowOperatorCreateStrategy,
    allowStrategyRead, allowOrgadminUserMgmt, allowOrgCreateBySysadmin,
    allowOrgMutateByOrgadmin, allowOrgReadByMember, allowMarketDataRead]

/-- The decision: the first predicate that allows, else a denial. -/
def can (deployFlag : Bool) (principal : Principal) (action : Action) (resource : Resource) :
    Permission :=
  ((allowChain deployFlag).findSome? fun predicate => predicate principal action resource).getD
    ⟨false, "no rule matched — denied by default"⟩

/-- Raise the reason of a denial. -/
def require (deployFlag : Bool) (principal : Principal) (action : Action) (resource : Resource) :
    Except String Unit :=
  let perm := can deployFlag principal action resource
  if perm.allowed = true then .ok () else .error perm.reason

end TradingStrands.Authz
