import TradingStrands.Authz.Model
import TradingStrands.Ddb.Operations
import TradingStrands.Foundation.Reading

/-!
Owns the records of tenants and their rows: organisations, users with an index
by address, memberships written from both sides, and the sysadmin sentinels.
Every function is a program over the table, so a call can be cut off, or see
the writes of another, between any two of its operations.

Ids and clock reads are inputs, and so is the rendering of an address that the
index is keyed by: `normalize` stands for lower-casing and stripping. Rows hold
the types the store writes.
-/

namespace TradingStrands

open TradingStrands.Foundation

/-! ### Records -/

/-- Only members of a system organisation can hold the sysadmin flag. -/
inductive OrgType
  | system
  | customer
deriving DecidableEq, Repr

def OrgType.value : OrgType → String
  | .system => "system"
  | .customer => "customer"

def OrgType.ofValue? (value : String) : Option OrgType :=
  [OrgType.system, .customer].find? fun orgType => orgType.value = value

def Role.ofValue? (value : String) : Option Role :=
  [Role.viewer, .operator, .auditor, .orgadmin].find? fun role => role.value = value

structure Org where
  orgId : OrgId
  name : String
  orgType : OrgType := .customer
  createdAt : Int
  updatedAt : Int
  settings : List (String × Attr) := []

structure User where
  userId : UserId
  email : String
  cognitoSub : Option String := none
  displayName : String := ""
  displayTimezone : String := "UTC"
  lastActiveOrgId : Option OrgId := none
  createdAt : Int
  updatedAt : Int
deriving DecidableEq, Repr

structure Membership where
  userId : UserId
  orgId : OrgId
  role : Role
  createdAt : Int
deriving DecidableEq, Repr

/-! ### Reading rows -/

namespace Item

def text (item : Item) (name : String) : Except CallError String :=
  match item.attr? name with
  | some (.text value) => .ok value
  | _ => .error (.validation name)

def number (item : Item) (name : String) : Except CallError Int :=
  match item.attr? name with
  | some (.number value) => .ok value
  | _ => .error (.validation name)

def textD (item : Item) (name default_ : String) : Except CallError String :=
  match item.attr? name with
  | none => .ok default_
  | some (.text value) => .ok value
  | _ => .error (.validation name)

def text? (item : Item) (name : String) : Except CallError (Option String) :=
  match item.attr? name with
  | none | some .null => .ok none
  | some (.text value) => .ok (some value)
  | _ => .error (.validation name)

end Item

/-- The type a row claims to be of. -/
def Org.readType (item : Item) : Except CallError OrgType :=
  match item.attr? "org_type" with
  | none => .ok .customer
  | some (.text value) =>
      match OrgType.ofValue? value with
      | none => .error (.validation "org_type")
      | some orgType => .ok orgType
  | _ => .error (.validation "org_type")

def Org.readSettings (item : Item) : Except CallError (List (String × Attr)) :=
  match item.attr? "settings" with
  | none => .ok []
  | some (.map fields) => .ok fields
  | _ => .error (.validation "settings")

/-- `Org.model_validate`; unknown attributes are ignored. -/
def Org.modelValidate (item : Item) : Except CallError Org := do
  let orgId ← item.text "org_id"
  let name ← item.text "name"
  let orgType ← Org.readType item
  let createdAt ← item.number "created_at"
  let updatedAt ← item.number "updated_at"
  let settings ← Org.readSettings item
  return { orgId, name, orgType, createdAt, updatedAt, settings }

def Org.modelDump (org : Org) : Item :=
  [("org_id", .text org.orgId), ("name", .text org.name), ("org_type", .text org.orgType.value),
    ("created_at", .number org.createdAt), ("updated_at", .number org.updatedAt),
    ("settings", .map org.settings)]

/-- `User.model_validate`. -/
def User.modelValidate (item : Item) : Except CallError User := do
  let userId ← item.text "user_id"
  let email ← item.text "email"
  let cognitoSub ← item.text? "cognito_sub"
  let displayName ← item.textD "display_name" ""
  let displayTimezone ← item.textD "display_timezone" "UTC"
  let lastActiveOrgId ← item.text? "last_active_org_id"
  let createdAt ← item.number "created_at"
  let updatedAt ← item.number "updated_at"
  return { userId, email, cognitoSub, displayName, displayTimezone, lastActiveOrgId, createdAt,
           updatedAt }

/-- An attribute that is left out where there is no value. -/
def optionalText (name : String) : Option String → Item
  | none => []
  | some value => [(name, .text value)]

/-- `model_dump(exclude_none=True)`. -/
def User.modelDump (user : User) : Item :=
  [("user_id", .text user.userId), ("email", .text user.email)] ++
    optionalText "cognito_sub" user.cognitoSub ++
    [("display_name", .text user.displayName), ("display_timezone", .text user.displayTimezone)] ++
    optionalText "last_active_org_id" user.lastActiveOrgId ++
    [("created_at", .number user.createdAt), ("updated_at", .number user.updatedAt)]

def readRole (item : Item) : Except CallError Role := do
  let value ← item.text "role"
  match Role.ofValue? value with
  | none => .error (.validation "role")
  | some role => .ok role

def toMembership (item : Item) : Except CallError Membership := do
  let userId ← item.text "user_id"
  let orgId ← item.text "org_id"
  let role ← readRole item
  let createdAt ← item.number "created_at"
  return { userId, orgId, role, createdAt }

theorem Item.attr?_of_text {item : Item} {name value : String}
    (reads : item.text name = .ok value) : item.attr? name = some (.text value) := by
  unfold Item.text at reads
  split at reads
  next stored =>
    cases reads
    exact stored
  next => cases reads

theorem Org.attr?_of_readType {item : Item} (reads : Org.readType item = .ok .system) :
    item.attr? "org_type" = some (.text "system") := by
  unfold Org.readType at reads
  split at reads
  · cases reads
  next value stored =>
    split at reads
    · cases reads
    next orgType known =>
      cases reads
      have named := List.find?_some known
      simp only [decide_eq_true_eq] at named
      rw [stored, ← named]
      rfl
  · cases reads

/-- What an organisation read from a row says of the row. -/
theorem Org.attrs_of_modelValidate {item : Item} {org : Org}
    (reads : Org.modelValidate item = .ok org) :
    item.attr? "org_id" = some (.text org.orgId) ∧
      (org.orgType = .system → item.attr? "org_type" = some (.text "system")) := by
  obtain ⟨orgId, readId, reads⟩ := bind_ok_iff.mp reads
  obtain ⟨name, -, reads⟩ := bind_ok_iff.mp reads
  obtain ⟨orgType, readType, reads⟩ := bind_ok_iff.mp reads
  obtain ⟨createdAt, -, reads⟩ := bind_ok_iff.mp reads
  obtain ⟨updatedAt, -, reads⟩ := bind_ok_iff.mp reads
  obtain ⟨settings, -, reads⟩ := bind_ok_iff.mp reads
  cases reads
  exact ⟨Item.attr?_of_text readId, fun system => Org.attr?_of_readType (system ▸ readType)⟩

/-! A record reads back from the row it is written to. -/

theorem Org.modelValidate_modelDump (org : Org) : Org.modelValidate org.modelDump = .ok org := by
  obtain ⟨orgId, name, orgType, createdAt, updatedAt, settings⟩ := org
  cases orgType <;> rfl

theorem User.modelValidate_modelDump (user : User) :
    User.modelValidate user.modelDump = .ok user := by
  obtain ⟨userId, email, cognitoSub, displayName, displayTimezone, lastActive, createdAt,
    updatedAt⟩ := user
  cases cognitoSub <;> cases lastActive <;> rfl

/-! ### Keys -/

namespace TenancyStore

open TableProgram

def orgPrefix : String := "ORG" ++ "#"
def orgPk (orgId : OrgId) : String := "ORG" ++ "#" ++ orgId
def userPrefix : String := "USER" ++ "#"
def userPk (userId : UserId) : String := "USER" ++ "#" ++ userId
def userEmailPk (email : String) : String := "USEREMAIL" ++ "#" ++ email
def userOrgPrefix (userId : UserId) : String := "USERORG" ++ "#" ++ (userId ++ "#")
def userOrgPk (userId : UserId) (orgId : OrgId) : String :=
  "USERORG" ++ "#" ++ (userId ++ "#" ++ orgId)
def orgUserPrefix (orgId : OrgId) : String := "ORGUSER" ++ "#" ++ (orgId ++ "#")
def orgUserPk (orgId : OrgId) (userId : UserId) : String :=
  "ORGUSER" ++ "#" ++ (orgId ++ "#" ++ userId)
def sysadminPk (userId : UserId) : String := "SYSADMIN" ++ "#" ++ userId

section Families

@[simp] theorem familyOf_orgPk (orgId : OrgId) : familyOf '#' (orgPk orgId) = "ORG".toList :=
  familyOf_append (by decide) (by decide)

@[simp] theorem familyOf_userPk (userId : UserId) :
    familyOf '#' (userPk userId) = "USER".toList :=
  familyOf_append (by decide) (by decide)

@[simp] theorem familyOf_userEmailPk (email : String) :
    familyOf '#' (userEmailPk email) = "USEREMAIL".toList :=
  familyOf_append (by decide) (by decide)

@[simp] theorem familyOf_userOrgPk (userId : UserId) (orgId : OrgId) :
    familyOf '#' (userOrgPk userId orgId) = "USERORG".toList :=
  familyOf_append (by decide) (by decide)

@[simp] theorem familyOf_orgUserPk (orgId : OrgId) (userId : UserId) :
    familyOf '#' (orgUserPk orgId userId) = "ORGUSER".toList :=
  familyOf_append (by decide) (by decide)

@[simp] theorem familyOf_sysadminPk (userId : UserId) :
    familyOf '#' (sysadminPk userId) = "SYSADMIN".toList :=
  familyOf_append (by decide) (by decide)

theorem not_orgPrefix {pk : String} (apart : familyOf '#' pk ≠ "ORG".toList) :
    beginsWith pk orgPrefix = false :=
  Table.not_beginsWith_family (by decide) (by decide) apart

theorem familyOf_of_orgPrefix {pk : String} (begins : beginsWith pk orgPrefix = true) :
    familyOf '#' pk = "ORG".toList := by
  by_contra apart
  rw [not_orgPrefix apart] at begins
  cases begins

@[simp] theorem orgPk_begins (orgId : OrgId) : beginsWith (orgPk orgId) orgPrefix = true := by
  rw [beginsWith_iff]
  exact ⟨orgId.toList, by simp [orgPk, orgPrefix]⟩

@[simp] theorem userPk_begins (userId : UserId) : beginsWith (userPk userId) userPrefix = true := by
  rw [beginsWith_iff]
  exact ⟨userId.toList, by simp [userPk, userPrefix]⟩

end Families

@[simp] theorem orgPk_inj {left right : OrgId} : orgPk left = orgPk right ↔ left = right := by
  simp [orgPk, ← String.toList_inj]

@[simp] theorem userPk_inj {left right : UserId} : userPk left = userPk right ↔ left = right := by
  simp [userPk, ← String.toList_inj]

@[simp] theorem userEmailPk_inj {left right : String} :
    userEmailPk left = userEmailPk right ↔ left = right := by
  simp [userEmailPk, ← String.toList_inj]

@[simp] theorem sysadminPk_inj {left right : UserId} :
    sysadminPk left = sysadminPk right ↔ left = right := by
  simp [sysadminPk, ← String.toList_inj]

/-! Without separators in the ids, a membership row is the row of one user in one
organisation, and a scan for an id finds the rows of that id. -/

section Plain

variable {userId otherUser : PlainId '#'} {orgId otherOrg : PlainId '#'}

theorem userOrgPk_inj : userOrgPk userId.text orgId.text = userOrgPk otherUser.text otherOrg.text ↔
    userId = otherUser ∧ orgId = otherOrg := by
  constructor
  · intro same
    have parts := (String.append_right_inj _).mp same
    obtain ⟨users, orgs⟩ := joined_inj (by decide) orgId.free otherOrg.free parts
    exact ⟨PlainId.eq_of_text users, PlainId.eq_of_text orgs⟩
  · rintro ⟨rfl, rfl⟩
    rfl

theorem orgUserPk_inj : orgUserPk orgId.text userId.text = orgUserPk otherOrg.text otherUser.text ↔
    orgId = otherOrg ∧ userId = otherUser := by
  constructor
  · intro same
    have parts := (String.append_right_inj _).mp same
    obtain ⟨orgs, users⟩ := joined_inj (by decide) userId.free otherUser.free parts
    exact ⟨PlainId.eq_of_text orgs, PlainId.eq_of_text users⟩
  · rintro ⟨rfl, rfl⟩
    rfl

theorem userOrgPk_begins_iff (rest : String) :
    beginsWith (userOrgPk userId.text rest) (userOrgPrefix otherUser.text) = true ↔
      otherUser = userId := by
  have delimited := @beginsWith_delimited ("USERORG" ++ "#") otherUser.text userId.text rest "#" '#'
    (by decide) otherUser.free userId.free
  simpa only [userOrgPk, userOrgPrefix, String.append_assoc, PlainId.text_inj] using delimited

theorem orgUserPk_begins_iff (rest : String) :
    beginsWith (orgUserPk orgId.text rest) (orgUserPrefix otherOrg.text) = true ↔
      otherOrg = orgId := by
  have delimited := @beginsWith_delimited ("ORGUSER" ++ "#") otherOrg.text orgId.text rest "#" '#'
    (by decide) otherOrg.free orgId.free
  simpa only [orgUserPk, orgUserPrefix, String.append_assoc, PlainId.text_inj] using delimited

end Plain

/-! ### Organisations -/

def createOrg (name : String) (orgType : OrgType) (orgId : OrgId) (now : Int) :
    TableProgram Org := do
  let org : Org := { orgId, name, orgType, createdAt := now, updatedAt := now }
  let absent ← putNew (orgPk orgId) org.modelDump
  if absent = true then return org
  else throw .conditionalCheckFailed

theorem createOrg_writesIn (name : String) (orgType : OrgType) (orgId : OrgId) (now : Int) :
    WritesIn ["ORG".toList] (createOrg name orgType orgId now) := by
  refine Program.All.bind (writesIn_putNew (by simp)) fun absent => ?_
  cases absent <;> trivial

def getOrg (orgId : OrgId) : TableProgram Org := do
  match ← getItem (orgPk orgId) with
  | none => throw (.notFound ("org " ++ orgId ++ " not found"))
  | some item => parsed (Org.modelValidate item)

theorem getOrg_reads (orgId : OrgId) : ReadsOnly (getOrg orgId) := by
  refine Program.All.bind writesIn_getItem fun stored => ?_
  cases stored <;> trivial

def listOrgs : TableProgram (List Org) := do
  let rows ← scanPrefix orgPrefix
  parsed (rows.mapM fun row => Org.modelValidate row.2)

/-- The system organisation, or none if bootstrap has not run. -/
def findSystemOrg : TableProgram (Option Org) := do
  let orgs ← listOrgs
  return orgs.find? fun org => org.orgType = .system

theorem findSystemOrg_reads : ReadsOnly findSystemOrg :=
  Program.All.bind (Program.All.bind (writesIn_scanPrefix _) fun _ => writesIn_parsed _)
    fun _ => writesIn_pure _

/-! ### Users -/

/-- Create a user. The index row is written first, on condition that the
address is free, and removed again if the record cannot be written. -/
def createUser (normalize : String → String) (email : String) (cognitoSub : Option String)
    (displayName : String) (userId : UserId) (now : Int) : TableProgram User := do
  let emailLower := normalize email
  let absent ← putNew (userEmailPk emailLower)
    [("user_id", .text userId), ("created_at", .number now)]
  if absent = false then
    throw (.emailAlreadyInUse ("email " ++ emailLower ++ " already in use"))
  let user : User :=
    { userId, email, cognitoSub, displayName, createdAt := now, updatedAt := now }
  tryCatch (putItem (userPk userId) user.modelDump) fun error => do
    deleteItem (userEmailPk emailLower)
    throw error
  return user

theorem createUser_writesIn (normalize : String → String) (email : String)
    (cognitoSub : Option String) (displayName : String) (userId : UserId) (now : Int) :
    WritesIn ["USEREMAIL".toList, "USER".toList]
      (createUser normalize email cognitoSub displayName userId now) := by
  unfold createUser
  refine Program.All.bind (writesIn_putNew (by simp)) fun absent => ?_
  dsimp only
  split
  · trivial
  refine Program.All.bind (Program.All.tryCatch (writesIn_putItem (by simp)) fun error => ?_)
    fun _ => writesIn_pure _
  exact Program.All.bind (writesIn_deleteItem (by simp)) fun _ => writesIn_throw _

def getUser (userId : UserId) : TableProgram User := do
  match ← getItem (userPk userId) with
  | none => throw (.notFound ("user " ++ userId ++ " not found"))
  | some item => parsed (User.modelValidate item)

theorem getUser_reads (userId : UserId) : ReadsOnly (getUser userId) := by
  refine Program.All.bind writesIn_getItem fun stored => ?_
  cases stored <;> trivial

/-- The user with this address. An index row whose user is gone counts as
missing. -/
def findUserByEmail (normalize : String → String) (email : String) :
    TableProgram (Option User) := do
  match ← getItem (userEmailPk (normalize email)) with
  | none => return none
  | some item =>
      let userId ← parsed (item.text "user_id")
      let found : TableProgram (Option User) := do
        let user ← getUser userId
        return some user
      tryCatch found fun
        | .notFound _ => return none
        | error => throw error

theorem findUserByEmail_reads (normalize : String → String) (email : String) :
    ReadsOnly (findUserByEmail normalize email) := by
  refine Program.All.bind writesIn_getItem fun stored => ?_
  cases stored with
  | none => trivial
  | some item =>
      refine Program.All.bind (writesIn_parsed _) fun userId => ?_
      refine Program.All.tryCatch
        (Program.All.bind (getUser_reads userId) fun _ => writesIn_pure _) fun error => ?_
      cases error <;> trivial

def listUsers : TableProgram (List User) := do
  let rows ← scanPrefix userPrefix
  parsed (rows.mapM fun row => User.modelValidate row.2)

theorem listUsers_reads : ReadsOnly listUsers :=
  Program.All.bind (writesIn_scanPrefix _) fun _ => writesIn_parsed _

/-! ### Memberships -/

def membershipItem (userId : UserId) (orgId : OrgId) (role : Role) (now : Int) : Item :=
  [("user_id", .text userId), ("org_id", .text orgId), ("role", .text role.value),
    ("created_at", .number now)]

theorem readRole_membershipItem (userId : UserId) (orgId : OrgId) (role : Role) (now : Int) :
    readRole (membershipItem userId orgId role now) = .ok role := by
  cases role <;> rfl

/-- Write both sides. If the second write fails, the first is removed. -/
def addMembership (userId : UserId) (orgId : OrgId) (role : Role) (now : Int) :
    TableProgram Membership := do
  putItem (userOrgPk userId orgId) (membershipItem userId orgId role now)
  tryCatch (putItem (orgUserPk orgId userId) (membershipItem userId orgId role now)) fun error => do
    deleteItem (userOrgPk userId orgId)
    throw error
  return { userId, orgId, role, createdAt := now }

theorem addMembership_writesIn (userId : UserId) (orgId : OrgId) (role : Role) (now : Int) :
    WritesIn ["USERORG".toList, "ORGUSER".toList] (addMembership userId orgId role now) := by
  refine Program.All.bind (writesIn_putItem (by simp)) fun _ => ?_
  refine Program.All.bind (Program.All.tryCatch (writesIn_putItem (by simp)) fun error => ?_)
    fun _ => writesIn_pure _
  exact Program.All.bind (writesIn_deleteItem (by simp)) fun _ => writesIn_throw _

def removeMembership (userId : UserId) (orgId : OrgId) : TableProgram Unit := do
  deleteItem (userOrgPk userId orgId)
  deleteItem (orgUserPk orgId userId)

theorem removeMembership_writesIn (userId : UserId) (orgId : OrgId) :
    WritesIn ["USERORG".toList, "ORGUSER".toList] (removeMembership userId orgId) :=
  Program.All.bind (writesIn_deleteItem (by simp)) fun _ => writesIn_deleteItem (by simp)

def membershipsForUser (userId : UserId) : TableProgram (List Membership) := do
  let rows ← scanPrefix (userOrgPrefix userId)
  parsed (rows.mapM fun row => toMembership row.2)

theorem membershipsForUser_reads (userId : UserId) : ReadsOnly (membershipsForUser userId) :=
  Program.All.bind (writesIn_scanPrefix _) fun _ => writesIn_parsed _

/-- All users of an organisation with their roles. -/
def membershipsForOrg (orgId : OrgId) : TableProgram (List Membership) := do
  let rows ← scanPrefix (orgUserPrefix orgId)
  parsed (rows.mapM fun row => toMembership row.2)

def roleOf (userId : UserId) (orgId : OrgId) : TableProgram (Option Role) := do
  match ← getItem (userOrgPk userId orgId) with
  | none => return none
  | some item =>
      let role ← parsed (readRole item)
      return some role

theorem roleOf_reads (userId : UserId) (orgId : OrgId) : ReadsOnly (roleOf userId orgId) := by
  refine Program.All.bind writesIn_getItem fun stored => ?_
  cases stored with
  | none => trivial
  | some item => exact Program.All.bind (writesIn_parsed _) fun _ => writesIn_pure _

/-! ### Sysadmin sentinels -/

/-- The caller verifies that the user is a member of the system organisation. -/
def grantSysadmin (userId : UserId) (now : Int) : TableProgram Unit :=
  putItem (sysadminPk userId) [("user_id", .text userId), ("created_at", .number now)]

def revokeSysadmin (userId : UserId) : TableProgram Unit := deleteItem (sysadminPk userId)

def isSysadmin (userId : UserId) : TableProgram Bool := do
  let item ← getItem (sysadminPk userId)
  return item.isSome

theorem isSysadmin_reads (userId : UserId) : ReadsOnly (isSysadmin userId) :=
  Program.All.bind writesIn_getItem fun _ => writesIn_pure _

end TenancyStore

end TradingStrands
