import TradingStrands.Authz.Policy
import TradingStrands.Bootstrap.Runner

/-!
Owns the administration endpoints and the principal they act for. A request is
a program over the table: it reads who the caller is, asks the policy, and then
reads and writes, and any of its operations can be separated from the next by
those of another request.

Does not own: the Cognito accounts behind the users; what Cognito answers is an
input, and calls whose failure is suppressed are left out. Nor the validators of the
bodies: a request reaches its handler with a validated body only, and what is shown
of a handler here is shown of every body.
-/

namespace TradingStrands

open TradingStrands.Foundation TenancyStore TableProgram

/-- What the endpoints read from their surroundings: how an address is
lower-cased and stripped, and the deploy flag. -/
structure Deploy where
  normalize : String → String
  sysadminCanReadOrgData : Option String := none

/-- The user a validated session is for. -/
structure Session where
  userId : UserId

namespace Dashboard

/-! ### Principal -/

def principalFromSession (session : Session) : TableProgram Principal := do
  if session.userId = "" then throw (.sessionInvalid "session missing user_id")
  let user ← tryCatch (getUser session.userId) fun
    | .notFound _ => throw (.sessionInvalid ("user " ++ session.userId ++ " no longer exists"))
    | error => throw error
  let memberships ← membershipsForUser session.userId
  let sysadmin ← isSysadmin session.userId
  return { userId := user.userId, email := user.email, sysadmin,
           memberships := Dict.empty.setAll (memberships.map fun m => (m.orgId, m.role)) }

/-- A request without a session, or with a stale one, is not authenticated. -/
def getPrincipal : Option Session → TableProgram Principal
  | none => throw (.http ⟨401, "Authentication required"⟩)
  | some session => tryCatch (principalFromSession session) fun
      | .sessionInvalid message => throw (.http ⟨401, message⟩)
      | error => throw error

theorem getPrincipal_reads (session : Option Session) : ReadsOnly (getPrincipal session) := by
  cases session with
  | none => exact writesIn_throw _
  | some session =>
      have principal : ReadsOnly (principalFromSession session) := by
        unfold principalFromSession
        dsimp only
        split
        · trivial
        refine Program.All.bind (Program.All.tryCatch (getUser_reads _) fun error => by
          cases error <;> trivial) fun _ => ?_
        refine Program.All.bind (membershipsForUser_reads _) fun _ => ?_
        exact Program.All.bind (isSysadmin_reads _) fun _ => writesIn_pure _
      refine Program.All.tryCatch principal fun error => ?_
      cases error <;> trivial

/-- Check authorization or answer 403 with the reason of the denial. -/
def require (deploy : Deploy) (principal : Principal) (action : Action) (resource : Resource) :
    TableProgram Unit :=
  match Authz.require (Authz.sysadminCanReadOrgData deploy.sysadminCanReadOrgData) principal action
    resource with
  | .ok () => return ()
  | .error reason => throw (.http ⟨403, reason⟩)

theorem require_reads (deploy : Deploy) (principal : Principal) (action : Action)
    (resource : Resource) : ReadsOnly (require deploy principal action resource) := by
  unfold require
  split <;> trivial

/-- User management needs the organisation's administrator, or a sysadmin. -/
def requireUserMgmt (deploy : Deploy) (principal : Principal) (orgId : Option OrgId) :
    TableProgram Unit :=
  require deploy principal .create { type := .user, orgId }

theorem requireUserMgmt_reads (deploy : Deploy) (principal : Principal) (orgId : Option OrgId) :
    ReadsOnly (requireUserMgmt deploy principal orgId) :=
  require_reads deploy principal _ _

/-! ### Organisations -/

def createOrg (deploy : Deploy) (session : Option Session) (name : String) (orgId : OrgId)
    (now : Int) : TableProgram Org := do
  let principal ← getPrincipal session
  require deploy principal .create { type := .org }
  TenancyStore.createOrg name .customer orgId now

structure OrgUpdate where
  name : Option String := none
  sessionMaxAge : Option Int := none

def OrgUpdate.fields (body : OrgUpdate) (now : Int) : List (String × Attr) :=
  [("updated_at", .number now)] ++
    (match body.name with
      | none => []
      | some name => [("name", .text name)]) ++
    match body.sessionMaxAge with
    | none => []
    | some age => [("session_max_age", .number age)]

def updateOrg (deploy : Deploy) (session : Option Session) (orgId : OrgId) (body : OrgUpdate)
    (now : Int) : TableProgram Item := do
  let principal ← getPrincipal session
  require deploy principal .update { type := .org, orgId := some orgId }
  let missing : CallError := .http ⟨404, "Organization not found"⟩
  let updated ← tryCatch (updateItem (orgPk orgId) (body.fields now)) fun _ => throw missing
  match updated with
  | none => throw missing
  | some item => return item

def deleteOrg (deploy : Deploy) (session : Option Session) (orgId : OrgId) : TableProgram Unit := do
  let principal ← getPrincipal session
  require deploy principal .delete { type := .org, orgId := some orgId }
  deleteItem (orgPk orgId)

/-! ### Users -/

/-- What Cognito answers to the creation of an account. -/
inductive CognitoAnswer
  | created (sub : String)
  | usernameExists
  | failed (message : String)

structure UserCreate where
  email : String
  role : String := "viewer"
  orgId : OrgId := ""

/-- The id a user gets and the clock reads of its creation. -/
structure UserDraw where
  userId : UserId
  userAt : Int := 0
  memberAt : Int := 0

def checkRole (role : String) : TableProgram Role :=
  match Role.ofValue? role with
  | none => throw (.http ⟨400, "Role must be one of ['auditor', 'operator', 'orgadmin', 'viewer']"⟩)
  | some role => return role

theorem checkRole_reads (role : String) : ReadsOnly (checkRole role) := by
  unfold checkRole
  split <;> trivial

/-- Create a user with a first membership. A failure after the Cognito account
was created removes that account, not the rows written so far. -/
def createUser (deploy : Deploy) (session : Option Session) (body : UserCreate)
    (cognito : CognitoAnswer) (draw : UserDraw) : TableProgram User := do
  let principal ← getPrincipal session
  requireUserMgmt deploy principal (if body.orgId = "" then none else some body.orgId)
  let role ← checkRole body.role
  if body.orgId = "" then
    throw (.http ⟨400, "org_id is required — users must be created into an org"⟩)
  let _ ← orNotFound (getOrg body.orgId) "Organization not found"
  let existing ← findUserByEmail deploy.normalize body.email
  if existing.isSome = true then
    throw (.http ⟨409, "A user with that email already exists"⟩)
  match cognito with
  | .usernameExists => throw (.http ⟨409, "User already exists"⟩)
  | .failed message => throw (.http ⟨500, message⟩)
  | .created sub =>
      let record : TableProgram User := do
        let user ← TenancyStore.createUser deploy.normalize body.email
          (if sub = "" then none else some sub) "" draw.userId draw.userAt
        let _ ← addMembership user.userId body.orgId role draw.memberAt
        return user
      tryCatch record fun _ =>
        throw (.http ⟨500, "failed to record user in store; Cognito account rolled back"⟩)

def updateUserRole (deploy : Deploy) (session : Option Session) (userId : UserId) (role : String)
    (orgId : OrgId) (now : Int) : TableProgram Membership := do
  let principal ← getPrincipal session
  requireUserMgmt deploy principal (some orgId)
  let role ← checkRole role
  let _ ← orNotFound (getUser userId) "User not found"
  let _ ← orNotFound (getOrg orgId) "Organization not found"
  addMembership userId orgId role now

def removeMemberships (userId : UserId) : List Membership → TableProgram Unit
  | [] => return ()
  | membership :: rest => do
      removeMembership userId membership.orgId
      removeMemberships userId rest

theorem removeMemberships_writesIn (userId : UserId) (memberships : List Membership) :
    WritesIn ["USERORG".toList, "ORGUSER".toList]
      (removeMemberships userId memberships) := by
  induction memberships with
  | nil => exact writesIn_pure _
  | cons membership rest inductionHypothesis =>
      exact Program.All.bind (removeMembership_writesIn _ _) fun _ => inductionHypothesis

/-- Remove the rows of a user. -/
def removeUser (deploy : Deploy) (user : User) (userId : UserId) : TableProgram Unit := do
  let memberships ← membershipsForUser userId
  removeMemberships userId memberships
  revokeSysadmin userId
  suppress (deleteItem (userEmailPk (deploy.normalize user.email)))
  suppress (deleteItem (userPk userId))

def deleteUser (deploy : Deploy) (session : Option Session) (userId : UserId) :
    TableProgram Unit := do
  let principal ← getPrincipal session
  requireUserMgmt deploy principal none
  let lookup : TableProgram (Option User) := do
    let user ← getUser userId
    return some user
  let found ← tryCatch lookup fun
    | .notFound _ => return none
    | error => throw error
  match found with
  | none => return ()
  | some user => removeUser deploy user userId

/-! ### The sysadmin flag -/

/-- How many users other than `userId` hold the flag. -/
def countSysadmins (userId : UserId) : List User → TableProgram Nat
  | [] => return 0
  | user :: rest =>
      if user.userId = userId then countSysadmins userId rest
      else do
        let holds ← isSysadmin user.userId
        let later ← countSysadmins userId rest
        return if holds = true then later + 1 else later

theorem countSysadmins_reads (userId : UserId) (users : List User) :
    ReadsOnly (countSysadmins userId users) := by
  induction users with
  | nil => exact writesIn_pure _
  | cons user rest inductionHypothesis =>
      unfold countSysadmins
      split
      · exact inductionHypothesis
      · refine Program.All.bind (isSysadmin_reads _) fun _ => ?_
        exact Program.All.bind inductionHypothesis fun _ => writesIn_pure _

structure SysadminState where
  userId : UserId
  email : String
  sysadmin : Bool
deriving DecidableEq, Repr

def updateSysadmin (session : Option Session) (userId : UserId) (sysadmin : Bool) (now : Int) :
    TableProgram SysadminState := do
  let principal ← getPrincipal session
  if principal.sysadmin = false then throw (.http ⟨403, "sysadmin required"⟩)
  let target ← orNotFound (getUser userId) "User not found"
  if sysadmin = true then do
    match ← findSystemOrg with
    | none => throw (.http ⟨500, "system org missing — bootstrap broken"⟩)
    | some systemOrg =>
        let role ← roleOf userId systemOrg.orgId
        if role = none then
          throw (.http ⟨400, "target must be a member of the system org first"⟩)
        grantSysadmin userId now
  else do
    let users ← listUsers
    let remaining ← countSysadmins userId users
    if remaining = 0 then
      throw (.http ⟨400, "cannot revoke the last remaining sysadmin"⟩)
    revokeSysadmin userId
  let holds ← isSysadmin userId
  return { userId, email := target.email, sysadmin := holds }

end Dashboard

/-! ### Requests -/

/-- The operations that administer tenants. -/
inductive AdminRequest
  | bootstrap (draw : Bootstrap.Draw)
  | createOrg (session : Option Session) (name : String) (orgId : OrgId) (now : Int)
  | updateOrg (session : Option Session) (orgId : OrgId) (body : Dashboard.OrgUpdate) (now : Int)
  | deleteOrg (session : Option Session) (orgId : OrgId)
  | createUser (session : Option Session) (body : Dashboard.UserCreate)
      (cognito : Dashboard.CognitoAnswer) (draw : Dashboard.UserDraw)
  | updateUserRole (session : Option Session) (userId : UserId) (role : String) (orgId : OrgId)
      (now : Int)
  | deleteUser (session : Option Session) (userId : UserId)
  | updateSysadmin (session : Option Session) (userId : UserId) (sysadmin : Bool) (now : Int)

/-- What a request runs; its response is not kept. -/
def AdminRequest.program (deploy : Deploy) : AdminRequest → TableProgram Unit
  | .bootstrap draw => do let _ ← Bootstrap.bootstrap deploy.normalize draw
  | .createOrg session name orgId now => do let _ ← Dashboard.createOrg deploy session name orgId now
  | .updateOrg session orgId body now => do let _ ← Dashboard.updateOrg deploy session orgId body now
  | .deleteOrg session orgId => Dashboard.deleteOrg deploy session orgId
  | .createUser session body cognito draw => do
      let _ ← Dashboard.createUser deploy session body cognito draw
  | .updateUserRole session userId role orgId now => do
      let _ ← Dashboard.updateUserRole deploy session userId role orgId now
  | .deleteUser session userId => Dashboard.deleteUser deploy session userId
  | .updateSysadmin session userId sysadmin now => do
      let _ ← Dashboard.updateSysadmin session userId sysadmin now

/-- The table and the administration requests under way. -/
abbrev AdminPool : Type := Pool TableOp TableOp.Answer CallError Unit Table AdminRequest

def AdminPool.step (deploy : Deploy) (pool : AdminPool)
    (event : PoolEvent CallError AdminRequest) : AdminPool :=
  Pool.step TableOp.apply (AdminRequest.program deploy) pool event

end TradingStrands
