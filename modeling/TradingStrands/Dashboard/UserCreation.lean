import TradingStrands.Bootstrap.Recovery
import TradingStrands.Dashboard.Admin

/-!
Owns the creation of a user together with the Cognito account behind it, when one
of its five writes fails: the account, the index row, the record, and the two
rows of the first membership. Each level removes what it wrote itself, and the
endpoint removes the account. Nobody removes the index row and the record once
both are written, so a failed membership leaves them, and the address is taken.

Cognito compares usernames in a form of its own, `canonical`. The address of a body has
passed its check before the endpoint is called; the rest holds of every address.
-/

namespace TradingStrands.UserCreation

open TradingStrands.Foundation TenancyStore TableProgram Dashboard

/-! ### The table and the accounts -/

inductive ProvisionOp
  | table (op : TableOp)
  /-- Creates an account, for which Cognito draws `sub`, unless the name is taken. -/
  | adminCreateUser (username sub : String)
  | adminDeleteUser (username : String)

structure Provision where
  table : Table
  /-- The `sub` of each account, by the name the pool compares. -/
  accounts : Dict String String

namespace ProvisionOp

abbrev Answer : ProvisionOp → Type
  | .table op => op.Answer
  | .adminCreateUser _ _ => Option String
  | .adminDeleteUser _ => Unit

def apply (canonical : String → String) : (op : ProvisionOp) → Provision → Answer op × Provision
  | .table op, state => ((op.apply state.table).1, { state with table := (op.apply state.table).2 })
  | .adminCreateUser username sub, state =>
      match state.accounts.get? (canonical username) with
      | some _ => (none, state)
      | none => (some sub, { state with accounts := state.accounts.set (canonical username) sub })
  | .adminDeleteUser username, state =>
      ((), { state with accounts := state.accounts.erase (canonical username) })

end ProvisionOp

abbrev ProvisionProgram (α : Type) : Type := Program ProvisionOp ProvisionOp.Answer CallError α

/-- A request to the table alone. -/
def onTable {α : Type} : TableProgram α → ProvisionProgram α
  | .done outcome => .done outcome
  | .call op next => .call (.table op) fun answer => onTable (next answer)

/-- It meets the fates of its operations, and leaves the accounts alone. -/
theorem execute_onTable {α : Type} (canonical : String → String)
    (plan : ProvisionOp → Program.Fate CallError) (program : TableProgram α) (state : Provision) :
    (onTable program).execute (ProvisionOp.apply canonical) plan state =
      ((program.execute TableOp.apply (fun op => plan (.table op)) state.table).1,
        { state with table :=
            (program.execute TableOp.apply (fun op => plan (.table op)) state.table).2 }) := by
  induction program generalizing state with
  | done outcome => rfl
  | call op next inductionHypothesis =>
      unfold onTable
      rw [Program.execute_call, Program.execute_call]
      cases plan (.table op) with
      | completes => exact inductionHypothesis _ _
      | raises error => exact inductionHypothesis _ _
      | stops => rfl

/-! ### The endpoint -/

/-- `str(exc)`. -/
def errorText : CallError → String
  | .http exception => exception.detail
  | .notFound message => message
  | .emailAlreadyInUse message => message
  | .sessionInvalid message => message
  | .unknownModel message => message
  | .conditionalCheckFailed => "ConditionalCheckFailedException"
  | .validation field => field
  | .service message => message

/-- The organisation of a creation is there, and its address is not in use. -/
def checkTarget (deploy : Deploy) (body : UserCreate) : TableProgram Unit := do
  if body.orgId = "" then
    throw (.http ⟨400, "org_id is required — users must be created into an org"⟩)
  let _ ← orNotFound (getOrg body.orgId) "Organization not found"
  let existing ← findUserByEmail deploy.normalize body.email
  if existing.isSome = true then
    throw (.http ⟨409, "A user with that email already exists"⟩)

/-- What is checked before anything is written. -/
def checkCreation (deploy : Deploy) (session : Option Session) (body : UserCreate) :
    TableProgram Role := do
  let principal ← getPrincipal session
  requireUserMgmt deploy principal (if body.orgId = "" then none else some body.orgId)
  let role ← checkRole body.role
  checkTarget deploy body
  return role

/-- The rows of the user and of the first membership. -/
def recordUser (deploy : Deploy) (body : UserCreate) (role : Role) (sub : String)
    (draw : UserDraw) : TableProgram User := do
  let user ← TenancyStore.createUser deploy.normalize body.email
    (if sub = "" then none else some sub) "" draw.userId draw.userAt
  let _ ← addMembership user.userId body.orgId role draw.memberAt
  return user

/-- The account, and then the rows; if they cannot be written, the account is
deleted. -/
def provision (deploy : Deploy) (body : UserCreate) (sub : String) (draw : UserDraw) (role : Role) :
    ProvisionProgram User := do
  let created ← tryCatch (Program.perform (ProvisionOp.adminCreateUser body.email sub)) fun error =>
    throw (.http ⟨500, errorText error⟩)
  match created with
  | none => throw (.http ⟨409, "User already exists"⟩)
  | some sub => tryCatch (onTable (recordUser deploy body role sub draw)) fun _ => do
      tryCatch (Program.perform (ProvisionOp.adminDeleteUser body.email)) fun _ => return ()
      throw (.http ⟨500, "failed to record user in store; Cognito account rolled back"⟩)

def createUser (deploy : Deploy) (session : Option Session) (body : UserCreate) (sub : String)
    (draw : UserDraw) : ProvisionProgram User := do
  let role ← onTable (checkCreation deploy session body)
  provision deploy body sub draw role

/-- With the answer of Cognito for an input, it is the endpoint on the table. -/
theorem createUser_eq (deploy : Deploy) (session : Option Session) (body : UserCreate)
    (cognito : CognitoAnswer) (draw : UserDraw) :
    Dashboard.createUser deploy session body cognito draw =
      checkCreation deploy session body >>= fun role =>
        match cognito with
        | .usernameExists => throw (.http ⟨409, "User already exists"⟩)
        | .failed message => throw (.http ⟨500, message⟩)
        | .created sub => tryCatch (recordUser deploy body role sub draw) fun _ =>
            throw (.http ⟨500, "failed to record user in store; Cognito account rolled back"⟩) := by
  unfold Dashboard.createUser checkCreation checkTarget recordUser
  simp only [Bind.bind, Program.bind_assoc]
  congr 1
  funext principal
  congr 1
  funext _
  congr 1
  funext role
  split
  · rfl
  · simp only [Program.bind_assoc]
    congr 1
    funext _
    congr 1
    funext existing
    cases existing <;> rfl

/-! ### Failures -/

/-- The five writes of a creation. -/
inductive Write
  | account
  | index
  | record
  | userRow
  | orgRow
deriving DecidableEq, Repr

def ProvisionOp.write? : ProvisionOp → Option Write
  | .adminCreateUser _ _ => some .account
  | .table (.putNew _ _) => some .index
  | .table (.putItem pk _) =>
      if familyOf '#' pk = "USER".toList then some .record
      else if familyOf '#' pk = "USERORG".toList then some .userRow
      else if familyOf '#' pk = "ORGUSER".toList then some .orgRow
      else none
  | _ => none

/-- Everything completes but the one write, if there is one that fails. -/
def failingAt (failing : Option (Write × CallError)) (op : ProvisionOp) : Program.Fate CallError :=
  match failing with
  | none => .completes
  | some (write, error) => if op.write? = some write then .raises error else .completes

/-- What a creation draws: the ids and clock reads, and the `sub` of the account. -/
structure CreationDraw where
  user : UserDraw
  sub : String

structure CreationRequest where
  deploy : Deploy
  canonical : String → String
  session : Option Session
  body : UserCreate

namespace CreationRequest

variable (request : CreationRequest)

def attempt (draw : CreationDraw) (failing : Option (Write × CallError)) (state : Provision) :
    Option (Except CallError User) × Provision :=
  (createUser request.deploy request.session request.body draw.sub draw.user).execute
    (ProvisionOp.apply request.canonical) (failingAt failing) state

/-- The request succeeds when no write fails. -/
def Succeeds (draw : CreationDraw) (state : Provision) : Prop :=
  ∃ user, (request.attempt draw none state).1 = some (.ok user)

def indexPk : String := userEmailPk (request.deploy.normalize request.body.email)

/-- The endpoint's guards let the request through, and nothing is left of an
earlier user or account of the name. -/
structure Admitted (state : Provision) : Prop where
  authorized : ∃ principal, (runAlone (getPrincipal request.session) state.table).1 = .ok principal ∧
    (runAlone (requireUserMgmt request.deploy principal
      (if request.body.orgId = "" then none else some request.body.orgId)) state.table).1 = .ok ()
  role : ∃ role, Role.ofValue? request.body.role = some role
  org : request.body.orgId ≠ "" ∧
    ∃ org, (runAlone (getOrg request.body.orgId) state.table).1 = .ok org
  unused : state.table.getItem request.indexPk = none
  noAccount : state.accounts.get? (request.canonical request.body.email) = none

end CreationRequest

/-- No row of a user and no account is there that was not there before. -/
def NothingNew (before after : Provision) : Prop :=
  (∀ pk, familyOf '#' pk ∈ ["USER".toList, "USEREMAIL".toList, "USERORG".toList, "ORGUSER".toList] →
    after.table.getItem pk ≠ none → before.table.getItem pk ≠ none) ∧
  ∀ username, after.accounts.get? username ≠ none → before.accounts.get? username ≠ none

/-- If the request ends in an error, nothing is left of it, and a retry that would
have succeeded before it still succeeds. -/
def CreationRequest.RollsBack (request : CreationRequest) (draw : CreationDraw)
    (failing : Option (Write × CallError)) (state : Provision) : Prop :=
  (∃ error, (request.attempt draw failing state).1 = some (.error error)) →
    NothingNew state (request.attempt draw failing state).2 ∧
      ∀ retry, request.Succeeds retry state →
        request.Succeeds retry (request.attempt draw failing state).2

/-! ### The checks -/

section Checks

variable {deploy : Deploy} {session : Option Session} {body : UserCreate} {table : Table}

theorem checkTarget_reads (deploy : Deploy) (body : UserCreate) :
    ReadsOnly (checkTarget deploy body) := by
  unfold checkTarget
  split
  · trivial
  refine Program.All.bind ((getOrg_reads _).orNotFound _) fun _ => ?_
  refine Program.All.bind (findUserByEmail_reads _ _) fun existing => ?_
  cases existing <;> trivial

theorem checkCreation_reads (deploy : Deploy) (session : Option Session) (body : UserCreate) :
    ReadsOnly (checkCreation deploy session body) := by
  refine Program.All.bind (getPrincipal_reads _) fun principal => ?_
  refine Program.All.bind (requireUserMgmt_reads _ _ _) fun _ => ?_
  refine Program.All.bind (checkRole_reads _) fun role => ?_
  exact Program.All.bind (checkTarget_reads _ _) fun _ => trivial

theorem checkTarget_ok_iff :
    (runAlone (checkTarget deploy body) table).1 = .ok () ↔
      (body.orgId ≠ "" ∧ ∃ org, (runAlone (getOrg body.orgId) table).1 = .ok org) ∧
        (runAlone (findUserByEmail deploy.normalize body.email) table).1 = .ok none := by
  unfold checkTarget
  by_cases missing : body.orgId = ""
  · rw [if_pos missing]
    exact iff_of_false nofun fun target => target.1.1 missing
  · rw [if_neg missing]
    change (runAlone (orNotFound (getOrg body.orgId) "Organization not found" >>= _) table).1 = _ ↔ _
    rw [((getOrg_reads _).orNotFound _).bind_ok_iff]
    simp only [orNotFound_ok_iff, (findUserByEmail_reads _ _).bind_ok_iff, ne_eq, missing,
      not_false_eq_true, true_and]
    constructor
    · rintro ⟨org, found, existing, read, free⟩
      cases existing with
      | none => exact ⟨⟨org, found⟩, read⟩
      | some user => cases free
    · rintro ⟨⟨org, found⟩, read⟩
      exact ⟨org, found, none, read, rfl⟩

theorem checkRole_ok_iff {role : String} {value : Role} :
    (runAlone (checkRole role) table).1 = .ok value ↔ Role.ofValue? role = some value := by
  unfold checkRole
  cases Role.ofValue? role <;> simp

/-- The checks pass exactly where each of them does. -/
theorem checkCreation_ok_iff :
    (∃ role, (runAlone (checkCreation deploy session body) table).1 = .ok role) ↔
      (∃ principal, (runAlone (getPrincipal session) table).1 = .ok principal ∧
        (runAlone (requireUserMgmt deploy principal
          (if body.orgId = "" then none else some body.orgId)) table).1 = .ok ()) ∧
      (∃ role, Role.ofValue? body.role = some role) ∧
      (body.orgId ≠ "" ∧ ∃ org, (runAlone (getOrg body.orgId) table).1 = .ok org) ∧
      (runAlone (findUserByEmail deploy.normalize body.email) table).1 = .ok none := by
  unfold checkCreation
  simp only [(getPrincipal_reads _).bind_ok_iff, (requireUserMgmt_reads _ _ _).bind_ok_iff,
    (checkRole_reads _).bind_ok_iff, (checkTarget_reads _ _).bind_ok_iff, checkRole_ok_iff,
    runAlone_pure, Except.ok.injEq]
  constructor
  · rintro ⟨_, principal, found, _, allowed, role, valid, _, target, -⟩
    exact ⟨⟨principal, found, allowed⟩, ⟨role, valid⟩, checkTarget_ok_iff.mp target⟩
  · rintro ⟨⟨principal, found, allowed⟩, ⟨role, valid⟩, target⟩
    exact ⟨role, principal, found, (), allowed, role, valid, (), checkTarget_ok_iff.mpr target, rfl⟩

/-- An address without an index row is not in use. -/
theorem findUserByEmail_of_unused {normalize : String → String} {email : String}
    (unused : table.getItem (userEmailPk (normalize email)) = none) :
    (runAlone (findUserByEmail normalize email) table).1 = .ok none := by
  unfold findUserByEmail
  rw [runAlone_bind, runAlone_getItem, unused]
  rfl

end Checks

/-! ### What an attempt leaves -/

section Attempts

variable {failing : Option (Write × CallError)} {table : Table}

/-- The fate of an operation on the table. -/
def tableFate (failing : Option (Write × CallError)) (op : TableOp) : Program.Fate CallError :=
  failingAt failing (.table op)

theorem tableFate_read {op : TableOp} (reads : op.target? = none) :
    tableFate failing op = .completes := by
  obtain - | ⟨write, error⟩ := failing
  · rfl
  · cases op <;> first | rfl | cases reads

@[simp] theorem tableFate_deleteItem (pk : String) :
    tableFate failing (.deleteItem pk) = .completes := by
  cases failing <;> rfl

/-- The fate of a write that is the one of its kind. -/
theorem failingAt_of_write {op : ProvisionOp} {write : Write} (kind : op.write? = some write) :
    failingAt failing op =
      match failing with
      | none => .completes
      | some (broken, error) => if broken = write then .raises error else .completes := by
  unfold failingAt
  rw [kind]
  obtain - | ⟨broken, error⟩ := failing
  · rfl
  · simp only [Option.some.injEq, eq_comm]

theorem fate_index (pk : String) (item : Item) :
    tableFate failing (.putNew pk item) =
      match failing with
      | none => .completes
      | some (broken, error) => if broken = .index then .raises error else .completes :=
  failingAt_of_write rfl

theorem fate_record (userId : UserId) (item : Item) :
    tableFate failing (.putItem (userPk userId) item) =
      match failing with
      | none => .completes
      | some (broken, error) => if broken = .record then .raises error else .completes :=
  failingAt_of_write (by simp [ProvisionOp.write?])

theorem fate_userRow (userId : UserId) (orgId : OrgId) (item : Item) :
    tableFate failing (.putItem (userOrgPk userId orgId) item) =
      match failing with
      | none => .completes
      | some (broken, error) => if broken = .userRow then .raises error else .completes :=
  failingAt_of_write (by simp [ProvisionOp.write?])

theorem fate_orgRow (userId : UserId) (orgId : OrgId) (item : Item) :
    tableFate failing (.putItem (orgUserPk orgId userId) item) =
      match failing with
      | none => .completes
      | some (broken, error) => if broken = .orgRow then .raises error else .completes :=
  failingAt_of_write (by simp [ProvisionOp.write?])

variable (deploy : Deploy) (body : UserCreate) (role : Role) (sub : String) (draw : UserDraw)

/-- An index row in the way stops a creation before it has written. -/
theorem recordUser_of_taken
    (taken : table.getItem (userEmailPk (deploy.normalize body.email)) ≠ none) :
    ∃ error, (recordUser deploy body role sub draw).execute TableOp.apply (tableFate failing) table =
      (some (.error error), table) := by
  unfold recordUser TenancyStore.createUser
  simp only [Program.execute_bind, execute_putNew, fate_index, if_neg taken]
  rcases failing with - | ⟨broken, error⟩
  · exact ⟨_, rfl⟩
  · by_cases index : broken = .index
    · simp only [index, if_true]
      exact ⟨_, rfl⟩
    · simp only [index, if_false]
      exact ⟨_, rfl⟩

/-- A failure before the record is there leaves the table as it was. -/
theorem recordUser_of_early
    (free : table.getItem (userEmailPk (deploy.normalize body.email)) = none) {broken : Write}
    (early : broken = .index ∨ broken = .record) (error : CallError) :
    ∃ raised, (recordUser deploy body role sub draw).execute TableOp.apply
      (tableFate (some (broken, error))) table = (some (.error raised), table) := by
  have undone : ∀ item, (table.putItem (userEmailPk (deploy.normalize body.email)) item).deleteItem
      (userEmailPk (deploy.normalize body.email)) = table :=
    fun item => Dict.erase_set_of_notMem item (Dict.get?_eq_none_iff.mp free)
  unfold recordUser TenancyStore.createUser
  rcases early with rfl | rfl
  · simp only [Program.execute_bind, execute_putNew, fate_index, if_true]
    exact ⟨_, rfl⟩
  · simp [Program.execute_bind, Program.execute_tryCatch, execute_putNew, execute_putItem,
      execute_deleteItem, fate_index, fate_record, free, undone]

/-- A failure at a membership row leaves the index row. -/
theorem recordUser_of_late
    (free : table.getItem (userEmailPk (deploy.normalize body.email)) = none) {broken : Write}
    (late : broken = .userRow ∨ broken = .orgRow) (error : CallError) :
    ∃ raised after, (recordUser deploy body role sub draw).execute TableOp.apply
        (tableFate (some (broken, error))) table = (some (.error raised), after) ∧
      after.getItem (userEmailPk (deploy.normalize body.email)) ≠ none := by
  unfold recordUser TenancyStore.createUser addMembership
  rcases late with rfl | rfl
  · simp [Program.execute_bind, Program.execute_tryCatch, execute_putNew, execute_putItem, fate_index,
      fate_record, fate_userRow, free, Table.getItem_putItem_of_family]
  · simp [Program.execute_bind, Program.execute_tryCatch, execute_putNew, execute_putItem,
      execute_deleteItem, fate_index, fate_record, fate_userRow, fate_orgRow, free,
      Table.getItem_putItem_of_family, Table.getItem_deleteItem_of_family]

theorem recordUser_of_unbroken
    (free : table.getItem (userEmailPk (deploy.normalize body.email)) = none)
    (unbroken : ∀ write error, failing = some (write, error) → write = .account) :
    ∃ user after, (recordUser deploy body role sub draw).execute TableOp.apply (tableFate failing)
      table = (some (.ok user), after) := by
  unfold recordUser TenancyStore.createUser addMembership
  rcases failing with - | ⟨broken, error⟩
  · simp [Program.execute_bind, Program.execute_tryCatch, execute_putNew, execute_putItem, fate_index,
      fate_record, fate_userRow, fate_orgRow, free]
  · cases unbroken _ _ rfl
    simp [Program.execute_bind, Program.execute_tryCatch, execute_putNew, execute_putItem, fate_index,
      fate_record, fate_userRow, fate_orgRow, free]

end Attempts

section Requests

variable {request : CreationRequest} {draw : CreationDraw}
  {failing : Option (Write × CallError)} {state : Provision}

theorem execute_onTable_failing {α : Type} (canonical : String → String)
    (program : TableProgram α) :
    (onTable program).execute (ProvisionOp.apply canonical) (failingAt failing) state =
      ((program.execute TableOp.apply (tableFate failing) state.table).1,
        { state with table := (program.execute TableOp.apply (tableFate failing) state.table).2 }) :=
  execute_onTable canonical (failingAt failing) program state

/-- The checks come first and write nothing. -/
theorem attempt_eq :
    request.attempt draw failing state =
      match (runAlone (checkCreation request.deploy request.session request.body) state.table).1 with
      | .error refusal => (some (.error refusal), state)
      | .ok role => (provision request.deploy request.body draw.sub draw.user role).execute
          (ProvisionOp.apply request.canonical) (failingAt failing) state := by
  unfold CreationRequest.attempt createUser
  rw [Program.execute_bind, execute_onTable_failing,
    (checkCreation_reads _ _ _).execute fun op reads => tableFate_read reads]
  cases (runAlone (checkCreation request.deploy request.session request.body) state.table).1 <;> rfl

theorem fate_account (username sub : String) :
    failingAt failing (.adminCreateUser username sub) =
      match failing with
      | none => .completes
      | some (broken, error) => if broken = .account then .raises error else .completes :=
  failingAt_of_write rfl

theorem fate_account_of_unbroken (unbroken : ∀ error, failing ≠ some (.account, error))
    (username sub : String) :
    failingAt failing (.adminCreateUser username sub) = .completes := by
  rw [fate_account]
  rcases failing with - | ⟨broken, error⟩
  · rfl
  · exact if_neg fun here => unbroken error (by rw [here])

variable {role : Role}

/-- Without an account nothing is written. -/
theorem provision_of_noAccount
    (noAccount : (∃ error, failing = some (.account, error)) ∨
      state.accounts.get? (request.canonical request.body.email) ≠ none) :
    ∃ error, (provision request.deploy request.body draw.sub draw.user role).execute
      (ProvisionOp.apply request.canonical) (failingAt failing) state =
        (some (.error error), state) := by
  unfold provision
  rw [Program.execute_bind, Program.execute_tryCatch, Program.execute_perform]
  by_cases broken : ∃ error, failing = some (.account, error)
  · obtain ⟨error, rfl⟩ := broken
    exact ⟨_, rfl⟩
  · have taken := noAccount.resolve_left broken
    rw [fate_account_of_unbroken (not_exists.mp broken)]
    cases stored : state.accounts.get? (request.canonical request.body.email) with
    | none => exact absurd stored taken
    | some sub =>
        simp [ProvisionOp.apply, stored]

/-- Where the account is new, what becomes of it follows what becomes of the rows. -/
theorem provision_of_account (unbroken : ∀ error, failing ≠ some (.account, error))
    (free : state.accounts.get? (request.canonical request.body.email) = none) :
    (provision request.deploy request.body draw.sub draw.user role).execute
      (ProvisionOp.apply request.canonical) (failingAt failing) state =
      match (recordUser request.deploy request.body role draw.sub draw.user).execute TableOp.apply
          (tableFate failing) state.table with
      | (some (.error _), table) => (some (.error (.http
          ⟨500, "failed to record user in store; Cognito account rolled back"⟩)),
          { state with table := table })
      | (outcome, table) => (outcome, {
          table := table
          accounts := state.accounts.set (request.canonical request.body.email) draw.sub }) := by
  unfold provision
  have completes := fate_account_of_unbroken unbroken request.body.email draw.sub
  have undone : (state.accounts.set (request.canonical request.body.email) draw.sub).erase
      (request.canonical request.body.email) = state.accounts :=
    Dict.erase_set_of_notMem _ (Dict.get?_eq_none_iff.mp free)
  rw [Program.execute_bind, Program.execute_tryCatch, Program.execute_perform, completes]
  simp only [ProvisionOp.apply, free]
  rw [Program.execute_tryCatch, execute_onTable_failing]
  dsimp only
  generalize (recordUser request.deploy request.body role draw.sub draw.user).execute TableOp.apply
    (tableFate failing) state.table = recorded
  obtain ⟨- | ⟨error | user⟩, table⟩ := recorded
  · rfl
  · have removal : failingAt failing (.adminDeleteUser request.body.email) = .completes := by
      cases failing <;> rfl
    simp only [Program.execute_bind, Program.execute_tryCatch, Program.execute_perform, removal,
      ProvisionOp.apply, undone, Program.execute_throw]
  · rfl

/-- A request that is refused, or fails before the record is there, leaves
everything as it was. -/
theorem attempt_restores (unlate : ¬ (request.Admitted state ∧
      ∃ error, failing = some (.userRow, error) ∨ failing = some (.orgRow, error)))
    (errs : ∃ error, (request.attempt draw failing state).1 = some (.error error)) :
    (request.attempt draw failing state).2 = state := by
  rw [attempt_eq] at errs ⊢
  cases checked : (runAlone (checkCreation request.deploy request.session request.body)
      state.table).1 with
  | error refusal => rfl
  | ok role =>
      rw [checked] at errs
      dsimp only at errs ⊢
      by_cases noAccount : (∃ error, failing = some (.account, error)) ∨
          state.accounts.get? (request.canonical request.body.email) ≠ none
      · obtain ⟨error, outcome⟩ := @provision_of_noAccount request draw failing state role noAccount
        rw [outcome]
      · obtain ⟨unbroken, free⟩ := not_or.mp noAccount
        have free := not_not.mp free
        rw [provision_of_account (not_exists.mp unbroken) free] at errs ⊢
        by_cases taken : state.table.getItem request.indexPk = none
        · have admitted : request.Admitted state := by
            obtain ⟨authorized, valid, org, -⟩ := checkCreation_ok_iff.mp ⟨role, checked⟩
            exact ⟨authorized, valid, org, taken, free⟩
          have early := not_and.mp unlate admitted
          rcases failing with - | ⟨broken, error⟩
          · obtain ⟨user, after, written⟩ := @recordUser_of_unbroken none _ request.deploy
              request.body role draw.sub draw.user taken nofun
            rw [written] at errs
            obtain ⟨_, none⟩ := errs
            cases none
          · have before : broken = .index ∨ broken = .record := by
              cases broken with
              | account => exact absurd rfl (not_exists.mp unbroken error)
              | index => exact Or.inl rfl
              | record => exact Or.inr rfl
              | userRow => exact absurd ⟨error, Or.inl rfl⟩ early
              | orgRow => exact absurd ⟨error, Or.inr rfl⟩ early
            obtain ⟨raised, written⟩ := recordUser_of_early request.deploy request.body role
              draw.sub draw.user taken before error
            rw [written]
        · obtain ⟨raised, written⟩ := @recordUser_of_taken failing state.table request.deploy
            request.body role draw.sub draw.user taken
          rw [written]

/-- An admitted request whose failure is at a membership row fails, and leaves the
index row. -/
theorem attempt_of_late (admitted : request.Admitted state) {broken : Write}
    (late : broken = .userRow ∨ broken = .orgRow) (error : CallError) :
    (∃ raised, (request.attempt draw (some (broken, error)) state).1 = some (.error raised)) ∧
      (request.attempt draw (some (broken, error)) state).2.table.getItem request.indexPk ≠ none := by
  obtain ⟨role, checked⟩ := checkCreation_ok_iff.mpr ⟨admitted.authorized, admitted.role,
    admitted.org, findUserByEmail_of_unused admitted.unused⟩
  have unbroken : ∀ raised, some (broken, error) ≠ some (Write.account, raised) := by
    rcases late with rfl | rfl <;> exact nofun
  obtain ⟨raised, after, written, left⟩ := recordUser_of_late request.deploy request.body role
    draw.sub draw.user admitted.unused late error
  rw [attempt_eq, checked]
  dsimp only
  rw [provision_of_account unbroken admitted.noAccount, written]
  exact ⟨⟨_, rfl⟩, left⟩

/-- A creation rolls back completely exactly where it is refused, or the write
that fails is not one of the two membership rows. -/
theorem rollsBack_iff (request : CreationRequest) (draw : CreationDraw)
    (failing : Option (Write × CallError)) (state : Provision) :
    request.RollsBack draw failing state ↔ ¬ (request.Admitted state ∧
      ∃ error, failing = some (.userRow, error) ∨ failing = some (.orgRow, error)) := by
  constructor
  · rintro rollsBack ⟨admitted, error, late⟩
    have left : ∀ broken, broken = Write.userRow ∨ broken = .orgRow →
        failing = some (broken, error) → False := by
      rintro broken membership rfl
      obtain ⟨errs, index⟩ := @attempt_of_late request draw state admitted broken membership error
      have before := (rollsBack errs).1.1 request.indexPk (by simp [CreationRequest.indexPk]) index
      exact before admitted.unused
    rcases late with userRow | orgRow
    · exact left _ (Or.inl rfl) userRow
    · exact left _ (Or.inr rfl) orgRow
  · intro unlate errs
    rw [attempt_restores unlate errs]
    exact ⟨⟨fun _ _ => id, fun _ => id⟩, fun _ => id⟩

end Requests

/-- After a bootstrap superwoman creates a user, and the row of the membership
fails. The address stays taken: the retry is refused. -/
theorem not_rollsBack_userRow :
    let boot : Bootstrap.Draw := ⟨"org", "user", 0, 0, 0, 0⟩
    let request : CreationRequest := ⟨{ normalize := id }, id, some ⟨"user"⟩,
      { email := "ada@x", orgId := "org" }⟩
    let state : Provision := ⟨Bootstrap.completed id boot boot, Dict.empty⟩
    let draw : CreationDraw := ⟨⟨"ada", 1, 1⟩, "sub"⟩
    let failing := some (Write.userRow, CallError.service "write refused")
    ¬ request.RollsBack draw failing state ∧ request.Succeeds draw state ∧
      (request.attempt draw none (request.attempt draw failing state).2).1 =
        some (.error (.http ⟨409, "A user with that email already exists"⟩)) := by
  intro boot request state draw failing
  have errs : (request.attempt draw failing state).1 = some (.error
      (.http ⟨500, "failed to record user in store; Cognito account rolled back"⟩)) := by
    decide +kernel
  have succeeds : ∃ user, (request.attempt draw none state).1 = some (.ok user) :=
    ⟨{ userId := "ada", email := "ada@x", cognitoSub := some "sub", createdAt := 1,
       updatedAt := 1 }, by decide +kernel⟩
  have refused : (request.attempt draw none (request.attempt draw failing state).2).1 =
      some (.error (.http ⟨409, "A user with that email already exists"⟩)) := by
    decide +kernel
  refine ⟨fun rollsBack => ?_, succeeds, refused⟩
  obtain ⟨user, retried⟩ := (rollsBack ⟨_, errs⟩).2 draw succeeds
  rw [refused] at retried
  cases retried

end TradingStrands.UserCreation
