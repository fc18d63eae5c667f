import TradingStrands.Bootstrap.Runner

/-!
Owns what a bootstrap run does from any table it can find: one lemma a step and
branch, then what a run leaves unchanged, and the first run cut off after any of
its operations. A run after a cut completes the state only if the cut came
before the index row of the first user or after her sysadmin row.
-/

namespace TradingStrands.Bootstrap

open TradingStrands.Foundation TenancyStore TableProgram

/-! ### Rows -/

def newOrg (draw : Draw) : Org :=
  { orgId := draw.orgId, name := systemOrgName, orgType := .system, createdAt := draw.orgAt,
    updatedAt := draw.orgAt }

def newUser (draw : Draw) : User :=
  { userId := draw.userId, email := superwomanEmail, createdAt := draw.userAt,
    updatedAt := draw.userAt }

@[simp] theorem newOrg_orgId (draw : Draw) : (newOrg draw).orgId = draw.orgId := rfl

@[simp] theorem newUser_userId (draw : Draw) : (newUser draw).userId = draw.userId := rfl

def indexItem (userId : UserId) (now : Int) : Item :=
  [("user_id", .text userId), ("created_at", .number now)]

def withOrg (draw : Draw) (table : Table) : Table :=
  table.putItem (orgPk draw.orgId) (newOrg draw).modelDump

def withIndex (normalize : String → String) (draw : Draw) (table : Table) : Table :=
  table.putItem (userEmailPk (normalize superwomanEmail)) (indexItem draw.userId draw.userAt)

def withUser (normalize : String → String) (draw : Draw) (table : Table) : Table :=
  (withIndex normalize draw table).putItem (userPk draw.userId) (newUser draw).modelDump

def withMembership (userId : UserId) (orgId : OrgId) (now : Int) (table : Table) : Table :=
  (table.putItem (userOrgPk userId orgId) (membershipItem userId orgId .orgadmin now)).putItem
    (orgUserPk orgId userId) (membershipItem userId orgId .orgadmin now)

def withSysadmin (userId : UserId) (now : Int) (table : Table) : Table :=
  table.putItem (sysadminPk userId) (indexItem userId now)

/-! ### The steps -/

section Steps

variable {normalize : String → String} {draw : Draw} {table : Table}

theorem findSystemOrg_of_valid {orgs : List Org}
    (valid : (table.scanPrefix orgPrefix).mapM (fun row => Org.modelValidate row.2) = .ok orgs) :
    runAlone findSystemOrg table = (.ok (orgs.find? fun org => org.orgType = .system), table) := by
  unfold findSystemOrg listOrgs
  simp only [runAlone_bind, runAlone_scanPrefix, runAlone_parsed, valid, runAlone_pure]

theorem ensureSystemOrg_absent (absent : table.scanPrefix orgPrefix = []) :
    runAlone (ensureSystemOrg draw) table = (.ok (newOrg draw, true), withOrg draw table) := by
  have free : table.getItem (orgPk draw.orgId) = none := by
    cases stored : table.getItem (orgPk draw.orgId) with
    | none => rfl
    | some item =>
        have member : (orgPk draw.orgId, item) ∈ table.scanPrefix orgPrefix :=
          Table.mem_scanPrefix_iff.mpr ⟨stored, orgPk_begins _⟩
        rw [absent] at member
        cases member
  have orgs : (table.scanPrefix orgPrefix).mapM (fun row => Org.modelValidate row.2) = .ok [] := by
    rw [absent]
    rfl
  unfold ensureSystemOrg TenancyStore.createOrg
  simp only [runAlone_bind, findSystemOrg_of_valid orgs, List.find?_nil,
    runAlone_putNew_free _ free, if_true, runAlone_pure]
  rfl

theorem ensureSystemOrg_found {pk : String} {org : Org}
    (only : table.scanPrefix orgPrefix = [(pk, org.modelDump)]) (system : org.orgType = .system) :
    runAlone (ensureSystemOrg draw) table = (.ok (org, false), table) := by
  have orgs : (table.scanPrefix orgPrefix).mapM (fun row => Org.modelValidate row.2) =
      .ok [org] := by
    rw [only, List.mapM_cons, Org.modelValidate_modelDump]
    rfl
  have found : [org].find? (fun org => org.orgType = .system) = some org := by
    simp [system]
  unfold ensureSystemOrg
  simp only [runAlone_bind, findSystemOrg_of_valid orgs, found, runAlone_pure]

theorem ensureUser_absent
    (free : table.getItem (userEmailPk (normalize superwomanEmail)) = none) :
    runAlone (ensureUser normalize draw) table =
      (.ok (newUser draw, true), withUser normalize draw table) := by
  unfold ensureUser findUserByEmail TenancyStore.createUser
  simp only [runAlone_bind, runAlone_tryCatch, runAlone_getItem, free, runAlone_pure,
    runAlone_putNew_free _ free, Bool.true_eq_false, if_false, runAlone_putItem]
  rfl

/-- Superwoman is there, with her index row. -/
structure Present (normalize : String → String) (user : User) (table : Table) : Prop where
  index : ∃ now, table.getItem (userEmailPk (normalize superwomanEmail)) =
    some (indexItem user.userId now)
  record : table.getItem (userPk user.userId) = some user.modelDump

theorem ensureUser_found {user : User} (present : Present normalize user table) :
    runAlone (ensureUser normalize draw) table = (.ok (user, false), table) := by
  obtain ⟨⟨now, index⟩, record⟩ := present
  have owner : (indexItem user.userId now).text "user_id" = .ok user.userId := rfl
  unfold ensureUser findUserByEmail getUser
  simp only [runAlone_bind, runAlone_tryCatch, runAlone_getItem, index, runAlone_parsed, owner,
    record, User.modelValidate_modelDump, runAlone_pure]

/-- An index row whose user is missing blocks every later run. -/
theorem ensureUser_dangling {userId : UserId} {now : Int}
    (index : table.getItem (userEmailPk (normalize superwomanEmail)) =
      some (indexItem userId now))
    (missing : table.getItem (userPk userId) = none) :
    runAlone (ensureUser normalize draw) table =
      (.error (.emailAlreadyInUse ("email " ++ normalize superwomanEmail ++ " already in use")),
        table) := by
  have owner : (indexItem userId now).text "user_id" = .ok userId := rfl
  unfold ensureUser findUserByEmail getUser TenancyStore.createUser
  simp only [runAlone_bind, runAlone_tryCatch, runAlone_getItem, index, runAlone_parsed, owner,
    missing, runAlone_throw, runAlone_pure, runAlone_putNew_taken _ index, if_true]

theorem ensureMembership_absent {user : User} {org : Org}
    (absent : table.getItem (userOrgPk user.userId org.orgId) = none) :
    runAlone (ensureMembership user org draw) table =
      (.ok true, withMembership user.userId org.orgId draw.memberAt table) := by
  unfold ensureMembership roleOf addMembership
  simp only [runAlone_bind, runAlone_tryCatch, runAlone_getItem, absent, runAlone_pure,
    runAlone_putItem]
  rfl

theorem ensureMembership_found {user : User} {org : Org} {role : Role} {now : Int}
    (member : table.getItem (userOrgPk user.userId org.orgId) =
      some (membershipItem user.userId org.orgId role now)) :
    runAlone (ensureMembership user org draw) table = (.ok false, table) := by
  unfold ensureMembership roleOf
  simp only [runAlone_bind, runAlone_getItem, member, runAlone_parsed, readRole_membershipItem,
    runAlone_pure]

theorem ensureSysadmin_created {user : User}
    (absent : table.getItem (sysadminPk user.userId) = none) :
    runAlone (ensureSysadmin user true draw) table =
      (.ok true, withSysadmin user.userId draw.grantAt table) := by
  unfold ensureSysadmin isSysadmin grantSysadmin
  simp only [Bool.true_eq_false, if_false, runAlone_bind, runAlone_getItem, absent, runAlone_pure,
    Option.isSome_none, Bool.false_eq_true, runAlone_putItem]
  rfl

theorem deleteLegacyStrategies_none (absent : table.scanPrefix "STRATEGY#" = []) :
    runAlone deleteLegacyStrategies table = (.ok 0, table) := by
  unfold deleteLegacyStrategies
  simp only [runAlone_bind, runAlone_scanPrefix, absent, deleteLegacy, runAlone_pure]

theorem bootstrap_of_steps {org : Org} {orgCreated : Bool} {afterOrg : Table}
    (orgStep : runAlone (ensureSystemOrg draw) table = (.ok (org, orgCreated), afterOrg))
    {user : User} {created : Bool} {afterUser : Table}
    (userStep : runAlone (ensureUser normalize draw) afterOrg = (.ok (user, created), afterUser))
    {added : Bool} {afterMember : Table}
    (memberStep : runAlone (ensureMembership user org draw) afterUser = (.ok added, afterMember))
    {granted : Bool} {afterGrant : Table}
    (grantStep : runAlone (ensureSysadmin user created draw) afterMember =
      (.ok granted, afterGrant))
    {deleted : Nat} {final : Table}
    (legacyStep : runAlone deleteLegacyStrategies afterGrant = (.ok deleted, final)) :
    runAlone (bootstrap normalize draw) table =
      (.ok ⟨org, orgCreated, user, created, added, granted, deleted⟩, final) := by
  unfold bootstrap ensureSuperwomanUser
  simp only [runAlone_bind, orgStep, userStep, memberStep, grantStep, legacyStep, runAlone_pure]

theorem bootstrap_of_user_raises {org : Org} {orgCreated : Bool} {afterOrg : Table}
    (orgStep : runAlone (ensureSystemOrg draw) table = (.ok (org, orgCreated), afterOrg))
    {error : CallError} {afterUser : Table}
    (userStep : runAlone (ensureUser normalize draw) afterOrg = (.error error, afterUser)) :
    runAlone (bootstrap normalize draw) table = (.error error, afterUser) := by
  unfold bootstrap ensureSuperwomanUser
  simp only [runAlone_bind, orgStep, userStep]

end Steps

/-! ### What a run establishes -/

/-- The rows of a bootstrapped table, the sysadmin row apart. -/
structure Settled (normalize : String → String) (org : Org) (user : User) (table : Table) :
    Prop extends Present normalize user table where
  system : org.orgType = .system
  superwoman : user.email = superwomanEmail
  onlyOrg : table.scanPrefix orgPrefix = [(orgPk org.orgId, org.modelDump)]
  userSide : ∃ now, table.getItem (userOrgPk user.userId org.orgId) =
    some (membershipItem user.userId org.orgId .orgadmin now)
  orgSide : ∃ now, table.getItem (orgUserPk org.orgId user.userId) =
    some (membershipItem user.userId org.orgId .orgadmin now)
  noStrategies : table.scanPrefix "STRATEGY#" = []

/-- The rows of a bootstrapped table. -/
structure Complete (normalize : String → String) (org : Org) (user : User) (table : Table) :
    Prop extends Settled normalize org user table where
  sysadmin : table.getItem (sysadminPk user.userId) ≠ none

section Runs

variable {normalize : String → String}

/-- A settled table stays as it is, flag or no flag. -/
theorem bootstrap_of_settled {org : Org} {user : User} {table : Table}
    (settled : Settled normalize org user table) (draw : Draw) :
    runAlone (bootstrap normalize draw) table =
      (.ok ⟨org, false, user, false, false, false, 0⟩, table) := by
  obtain ⟨now, member⟩ := settled.userSide
  exact bootstrap_of_steps (ensureSystemOrg_found settled.onlyOrg settled.system)
    (ensureUser_found settled.toPresent) (ensureMembership_found member) rfl
    (deleteLegacyStrategies_none settled.noStrategies)

/-- The table of a run that finds nothing but, possibly, the organisation of
another run. -/
def completed (normalize : String → String) (orgDraw draw : Draw) : Table :=
  withSysadmin draw.userId draw.grantAt
    (withMembership draw.userId orgDraw.orgId draw.memberAt
      (withUser normalize draw (withOrg orgDraw Dict.empty)))

theorem not_strategyPrefix {pk : String} (apart : familyOf '#' pk ≠ "STRATEGY".toList) :
    beginsWith pk "STRATEGY#" = false := by
  have joined : "STRATEGY#" = "STRATEGY" ++ "#" := by decide
  rw [joined]
  exact Table.not_beginsWith_family (by decide) (by decide) apart

theorem scanPrefix_withOrg (draw : Draw) :
    (withOrg draw Dict.empty).scanPrefix orgPrefix =
      [(orgPk draw.orgId, (newOrg draw).modelDump)] :=
  Table.scanPrefix_putItem_fresh _ _ (orgPk_begins _) rfl

theorem complete_completed (orgDraw draw : Draw) :
    Complete normalize (newOrg orgDraw) (newUser draw) (completed normalize orgDraw draw) where
  system := rfl
  superwoman := rfl
  index := by
    refine ⟨draw.userAt, ?_⟩
    unfold completed withSysadmin withMembership withUser withIndex
    simp (disch := simp) only [Table.getItem_putItem_of_family, Table.getItem_putItem_self]
    rfl
  record := by
    unfold completed withSysadmin withMembership withUser
    simp (disch := simp) only [Table.getItem_putItem_of_family, Table.getItem_putItem_self,
      newUser_userId]
  onlyOrg := by
    unfold completed withSysadmin withMembership withUser withIndex
    simp (disch := exact not_orgPrefix (by simp)) only [Table.scanPrefix_putItem_of_not]
    exact scanPrefix_withOrg orgDraw
  userSide := by
    refine ⟨draw.memberAt, ?_⟩
    unfold completed withSysadmin withMembership
    simp (disch := simp) only [Table.getItem_putItem_of_family, Table.getItem_putItem_self,
      newUser_userId, newOrg_orgId]
  orgSide := by
    refine ⟨draw.memberAt, ?_⟩
    unfold completed withSysadmin withMembership
    simp (disch := simp) only [Table.getItem_putItem_of_family, Table.getItem_putItem_self,
      newUser_userId, newOrg_orgId]
  noStrategies := by
    unfold completed withSysadmin withMembership withUser withIndex withOrg
    simp (disch := exact not_strategyPrefix (by simp)) only [Table.scanPrefix_putItem_of_not]
    rfl
  sysadmin := by
    unfold completed withSysadmin
    rw [newUser_userId, Table.getItem_putItem_self]
    exact Option.some_ne_none _

theorem noMembership_withUser (normalize : String → String) (orgDraw draw : Draw) :
    (withUser normalize draw (withOrg orgDraw Dict.empty)).getItem
      (userOrgPk (newUser draw).userId (newOrg orgDraw).orgId) = none := by
  unfold withUser withIndex withOrg
  simp (disch := simp) only [Table.getItem_putItem_of_family]
  rfl

theorem noSysadmin_withMembership (normalize : String → String) (orgDraw draw : Draw) :
    (withMembership draw.userId orgDraw.orgId draw.memberAt
      (withUser normalize draw (withOrg orgDraw Dict.empty))).getItem
        (sysadminPk (newUser draw).userId) = none := by
  unfold withMembership withUser withIndex withOrg
  simp (disch := simp) only [Table.getItem_putItem_of_family]
  rfl

/-- A run that finds no user creates her and completes the table, whichever run
the organisation is from. -/
theorem bootstrap_of_org {orgDraw draw : Draw} {created : Bool} {table : Table}
    (orgStep : runAlone (ensureSystemOrg draw) table =
      (.ok (newOrg orgDraw, created), withOrg orgDraw Dict.empty)) :
    ∃ report, runAlone (bootstrap normalize draw) table =
      (.ok report, completed normalize orgDraw draw) := by
  have free : (withOrg orgDraw Dict.empty).getItem (userEmailPk (normalize superwomanEmail)) =
      none := by
    unfold withOrg
    rw [Table.getItem_putItem_of_family _ _ (by simp)]
    rfl
  exact ⟨_, bootstrap_of_steps orgStep (ensureUser_absent free)
    (ensureMembership_absent (noMembership_withUser normalize orgDraw draw))
    (ensureSysadmin_created (noSysadmin_withMembership normalize orgDraw draw))
    (deleteLegacyStrategies_none (complete_completed orgDraw draw).noStrategies)⟩

theorem bootstrap_empty (draw : Draw) :
    ∃ report, runAlone (bootstrap normalize draw) Dict.empty =
      (.ok report, completed normalize draw draw) :=
  bootstrap_of_org (ensureSystemOrg_absent rfl)

end Runs

/-! ### Where superwoman is found -/

/-- The steps from the membership on. -/
def settle (org : Org × Bool) (user : User × Bool) (draw : Draw) : TableProgram Report := do
  let added ← ensureMembership user.1 org.1 draw
  let granted ← ensureSysadmin user.1 user.2 draw
  let deleted ← deleteLegacyStrategies
  return ⟨org.1, org.2, user.1, user.2, added, granted, deleted⟩

theorem bootstrap_eq (normalize : String → String) (draw : Draw) :
    bootstrap normalize draw = (do
      let org ← ensureSystemOrg draw
      let user ← ensureUser normalize draw
      settle org user draw) := by
  unfold bootstrap ensureSuperwomanUser settle
  simp only [Bind.bind, Program.bind_assoc]
  rfl

section Found

variable {normalize : String → String}

theorem ensureSystemOrg_writesIn (draw : Draw) :
    WritesIn ["ORG".toList] (ensureSystemOrg draw) := by
  refine Program.All.bind (findSystemOrg_reads.writesIn _) fun found => ?_
  cases found with
  | some existing => exact writesIn_pure _
  | none => exact Program.All.bind (createOrg_writesIn _ _ _ _) fun _ => writesIn_pure _

theorem ensureMembership_writesIn (user : User) (org : Org) (draw : Draw) :
    WritesIn ["USERORG".toList, "ORGUSER".toList] (ensureMembership user org draw) := by
  refine Program.All.bind ((roleOf_reads _ _).writesIn _) fun role => ?_
  cases role with
  | some role => exact writesIn_pure _
  | none => exact Program.All.bind (addMembership_writesIn _ _ _ _) fun _ => writesIn_pure _

theorem deleteLegacy_writesIn {rows : List (String × Item)}
    (strategies : ∀ row ∈ rows, familyOf '#' row.1 = "STRATEGY".toList) :
    WritesIn ["STRATEGY".toList] (deleteLegacy rows) := by
  induction rows with
  | nil => exact writesIn_pure _
  | cons row rest inductionHypothesis =>
      have later := inductionHypothesis fun row member => strategies row (List.mem_cons_of_mem _ member)
      unfold deleteLegacy
      split
      · refine Program.All.bind (writesIn_deleteItem ?_) fun _ =>
          Program.All.bind later fun _ => writesIn_pure _
        rw [strategies row List.mem_cons_self]
        exact List.mem_cons_self
      · exact later

theorem deleteLegacyStrategies_writesIn :
    WritesIn ["STRATEGY".toList] deleteLegacyStrategies := by
  refine Program.All.perform_bind nofun fun table => deleteLegacy_writesIn fun row member => ?_
  have begins := (Table.mem_scanPrefix_iff.mp member).2
  by_contra apart
  rw [not_strategyPrefix apart] at begins
  cases begins

theorem settle_writesIn (org : Org × Bool) (user : User) (draw : Draw) :
    WritesIn ["USERORG".toList, "ORGUSER".toList, "STRATEGY".toList]
      (settle org (user, false) draw) := by
  refine Program.All.bind ((ensureMembership_writesIn user org.1 draw).weaken (by simp))
    fun _ => Program.All.bind (writesIn_pure _)
    fun _ => Program.All.bind (deleteLegacyStrategies_writesIn.weaken (by simp))
    fun _ => writesIn_pure _

theorem Present.of_same {user : User} {table after : Table}
    (present : Present normalize user table)
    (index : ∀ email, after.getItem (userEmailPk email) = table.getItem (userEmailPk email))
    (record : ∀ userId, after.getItem (userPk userId) = table.getItem (userPk userId)) :
    Present normalize user after where
  index := by
    obtain ⟨now, stored⟩ := present.index
    exact ⟨now, (index _).trans stored⟩
  record := (record _).trans present.record

/-- A run that finds superwoman changes no sysadmin row, whatever else it
finds. -/
theorem bootstrap_of_present {user : User} {table : Table}
    (present : Present normalize user table) (draw : Draw) :
    Present normalize user (runAlone (bootstrap normalize draw) table).2 ∧
      ∀ userId, (runAlone (bootstrap normalize draw) table).2.getItem (sysadminPk userId) =
        table.getItem (sysadminPk userId) := by
  rw [bootstrap_eq, runAlone_bind]
  have orgRows : ∀ pk, familyOf '#' pk ∉ ["ORG".toList] →
      (runAlone (ensureSystemOrg draw) table).2.getItem pk = table.getItem pk :=
    fun pk outside => (ensureSystemOrg_writesIn draw).getItem_runAlone outside
  generalize runAlone (ensureSystemOrg draw) table = orgStep at orgRows
  obtain ⟨outcome, afterOrg⟩ := orgStep
  have here : Present normalize user afterOrg :=
    present.of_same (fun email => orgRows _ (by simp)) fun userId => orgRows _ (by simp)
  cases outcome with
  | error error => exact ⟨here, fun userId => orgRows _ (by simp)⟩
  | ok org =>
      have later : ∀ pk, familyOf '#' pk ∉ ["USERORG".toList, "ORGUSER".toList, "STRATEGY".toList] →
          (runAlone (settle org (user, false) draw) afterOrg).2.getItem pk = afterOrg.getItem pk :=
        fun pk outside => (settle_writesIn org user draw).getItem_runAlone outside
      dsimp only
      rw [runAlone_bind, ensureUser_found here]
      refine ⟨here.of_same (fun email => later _ (by simp)) fun userId => later _ (by simp),
        fun userId => ?_⟩
      exact (later _ (by simp)).trans (orgRows _ (by simp))

/-- No later run grants the flag again. -/
theorem sysadmin_of_present {user : User} {table : Table} (present : Present normalize user table)
    (userId : UserId) (draws : List Draw) :
    (Foundation.run (fun table draw => (runAlone (bootstrap normalize draw) table).2) table
      draws).getItem (sysadminPk userId) = table.getItem (sysadminPk userId) := by
  induction draws generalizing table with
  | nil => rfl
  | cons draw rest inductionHypothesis =>
      obtain ⟨after, same⟩ := bootstrap_of_present present draw
      rw [run_cons, inductionHypothesis after, same]

/-- Superwoman is there and her sysadmin row is not. -/
structure Unfinished (normalize : String → String) (draw : Draw) (table : Table) : Prop extends
    Present normalize (newUser draw) table where
  notGranted : table.getItem (sysadminPk draw.userId) = none

theorem Unfinished.putItem {draw : Draw} {table : Table} (unfinished : Unfinished normalize draw table)
    {pk : String} (item : Item)
    (apart : familyOf '#' pk ∉ ["USEREMAIL".toList, "USER".toList, "SYSADMIN".toList]) :
    Unfinished normalize draw (table.putItem pk item) := by
  simp only [List.mem_cons, List.not_mem_nil, or_false, not_or] at apart
  obtain ⟨notIndex, notUser, notSysadmin⟩ := apart
  refine ⟨unfinished.toPresent.of_same (fun email => ?_) (fun userId => ?_), ?_⟩
  · exact Table.getItem_putItem_of_family _ _ (by simpa using Ne.symm notIndex)
  · exact Table.getItem_putItem_of_family _ _ (by simpa using Ne.symm notUser)
  · rw [Table.getItem_putItem_of_family _ _ (by simpa using Ne.symm notSysadmin)]
    exact unfinished.notGranted

end Found

/-! ### A first run cut off -/

/-- The table once the first operations of a first run have been performed. -/
def crashed (normalize : String → String) (first : Draw) (count : Nat) : Table :=
  (bootstrap normalize first).after TableOp.apply count Dict.empty

section Crashes

variable (normalize : String → String) (first : Draw)

/-- The first five operations end with the row of the user. -/
theorem crashed_add_five (count : Nat) :
    crashed normalize first (count + 5) =
      (settle (newOrg first, true) (newUser first, true) first).after TableOp.apply count
        (withUser normalize first (withOrg first Dict.empty)) := by
  unfold crashed
  rw [bootstrap_eq]
  rfl

theorem after_ensureMembership {user : User} {org : Org} {draw : Draw} {table : Table}
    (absent : table.getItem (userOrgPk user.userId org.orgId) = none) {β : Type}
    (rest : Bool → TableProgram β) (count : Nat) :
    (ensureMembership user org draw >>= rest).after TableOp.apply (count + 3) table =
      (rest true).after TableOp.apply count
        (withMembership user.userId org.orgId draw.memberAt table) := by
  unfold ensureMembership roleOf addMembership
  simp only [getItem, Program.perform, Bind.bind, Program.bind, Program.after, TableOp.apply, absent]
  rfl

/-- Cut between the two sides of the membership. -/
theorem after_ensureMembership_userSide {user : User} {org : Org} {draw : Draw} {table : Table}
    (absent : table.getItem (userOrgPk user.userId org.orgId) = none) {β : Type}
    (rest : Bool → TableProgram β) :
    (ensureMembership user org draw >>= rest).after TableOp.apply 2 table =
      table.putItem (userOrgPk user.userId org.orgId)
        (membershipItem user.userId org.orgId .orgadmin draw.memberAt) := by
  unfold ensureMembership roleOf addMembership
  simp only [getItem, Program.perform, Bind.bind, Program.bind, Program.after, TableOp.apply, absent]
  rfl

/-- The flag is first looked up. -/
theorem after_ensureSysadmin_one {user : User} {draw : Draw} {table : Table} {β : Type}
    (rest : Bool → TableProgram β) :
    (ensureSysadmin user true draw >>= rest).after TableOp.apply 1 table = table := rfl

theorem after_ensureSysadmin {user : User} {draw : Draw} {table : Table}
    (absent : table.getItem (sysadminPk user.userId) = none) {β : Type}
    (rest : Bool → TableProgram β) (count : Nat) :
    (ensureSysadmin user true draw >>= rest).after TableOp.apply (count + 2) table =
      (rest true).after TableOp.apply count (withSysadmin user.userId draw.grantAt table) := by
  unfold ensureSysadmin isSysadmin
  simp only [Bool.true_eq_false, if_false, getItem, Program.perform, Bind.bind, Program.bind,
    Program.after, TableOp.apply, absent]
  rfl

theorem after_deleteLegacyStrategies {table : Table} (absent : table.scanPrefix "STRATEGY#" = [])
    {β : Type} (rest : Nat → TableProgram β) (count : Nat) :
    (deleteLegacyStrategies >>= rest).after TableOp.apply (count + 1) table =
      (rest 0).after TableOp.apply count table := by
  unfold deleteLegacyStrategies
  simp only [scanPrefix, Program.perform, Bind.bind, Program.bind, Program.after, TableOp.apply,
    absent]
  rfl

/-- Ten operations complete the table. -/
theorem crashed_add_ten (count : Nat) :
    crashed normalize first (count + 10) = completed normalize first first := by
  have legacy : (completed normalize first first).scanPrefix "STRATEGY#" = [] :=
    (complete_completed first first).noStrategies
  unfold completed at legacy ⊢
  rw [show count + 10 = count + 2 + 3 + 5 from rfl, crashed_add_five]
  unfold settle
  dsimp only
  rw [after_ensureMembership (noMembership_withUser normalize first first), newUser_userId,
    newOrg_orgId, after_ensureSysadmin (noSysadmin_withMembership normalize first first),
    newUser_userId]
  cases count with
  | zero => exact Program.after_zero _ _ _
  | succ count =>
      rw [after_deleteLegacyStrategies legacy]
      exact Program.after_pure TableOp.apply count _ _

/-- Between the row of the user and her sysadmin row. -/
theorem crashed_between {count : Nat} (user : 5 ≤ count) (sysadmin : count ≤ 9) :
    Unfinished normalize first (crashed normalize first count) := by
  have created : Unfinished normalize first
      (withUser normalize first (withOrg first Dict.empty)) := by
    unfold withUser withIndex withOrg
    refine ⟨⟨⟨first.userAt, ?_⟩, ?_⟩, ?_⟩
    · simp (disch := simp) only [Table.getItem_putItem_of_family, Table.getItem_putItem_self]
      rfl
    · rw [newUser_userId, Table.getItem_putItem_self]
    · simp (disch := simp) only [Table.getItem_putItem_of_family]
      rfl
  have oneSide : Unfinished normalize first
      ((withUser normalize first (withOrg first Dict.empty)).putItem
        (userOrgPk first.userId first.orgId)
        (membershipItem first.userId first.orgId .orgadmin first.memberAt)) :=
    created.putItem _ (by simp)
  have bothSides : Unfinished normalize first
      (withMembership first.userId first.orgId first.memberAt
        (withUser normalize first (withOrg first Dict.empty))) :=
    oneSide.putItem _ (by simp)
  have alone := noMembership_withUser normalize first first
  obtain ⟨later, rfl⟩ := Nat.exists_eq_add_of_le' user
  rw [crashed_add_five]
  unfold settle
  dsimp only
  obtain rfl | rfl | rfl | rfl | rfl :
      later = 0 ∨ later = 1 ∨ later = 2 ∨ later = 3 ∨ later = 4 := by omega
  · exact created
  · exact created
  · rw [after_ensureMembership_userSide alone]
    exact oneSide
  · rw [after_ensureMembership alone, Program.after_zero]
    exact bothSides
  · rw [after_ensureMembership alone, after_ensureSysadmin_one]
    exact bothSides

end Crashes

/-! ### Recovery -/

/-- A run on the table completes it as an uninterrupted run would, further runs
change nothing, and none of them grants the flag again once it is revoked. -/
def Recovers (normalize : String → String) (second : Draw) (table : Table) : Prop :=
  ∃ report final, runAlone (bootstrap normalize second) table = (.ok report, final) ∧
    (∃ draw report, runAlone (bootstrap normalize draw) Dict.empty = (.ok report, final)) ∧
    (∀ third, ∃ report, runAlone (bootstrap normalize third) final = (.ok report, final)) ∧
    ∃ org user, Complete normalize org user final ∧
      ∀ draws, (Foundation.run (fun table draw => (runAlone (bootstrap normalize draw) table).2)
        (runAlone (revokeSysadmin user.userId) final).2 draws).getItem (sysadminPk user.userId) =
          none

theorem recovers_of_completed {normalize : String → String} {orgDraw draw second : Draw}
    {table : Table} {report : Report}
    (runs : runAlone (bootstrap normalize second) table =
      (.ok report, completed normalize orgDraw draw)) : Recovers normalize second table := by
  have complete := @complete_completed normalize orgDraw draw
  refine ⟨report, _, runs, ?_, fun third => ⟨_, bootstrap_of_settled complete.toSettled third⟩,
    newOrg orgDraw, newUser draw, complete, fun draws => ?_⟩
  · exact ⟨{ draw with orgId := orgDraw.orgId, orgAt := orgDraw.orgAt }, bootstrap_empty _⟩
  · have present : Present normalize (newUser draw)
        (runAlone (revokeSysadmin (newUser draw).userId) (completed normalize orgDraw draw)).2 :=
      complete.toPresent.of_same
        (fun email => Table.getItem_deleteItem_of_family _ (by simp))
        fun userId => Table.getItem_deleteItem_of_family _ (by simp)
    rw [sysadmin_of_present present]
    exact Table.getItem_deleteItem_self _ _

/-- Superwoman without her flag is taken for demoted, and never gets it. -/
theorem not_recovers_of_unfinished {normalize : String → String} {first second : Draw}
    {table : Table} (unfinished : Unfinished normalize first table) :
    ¬ Recovers normalize second table := by
  rintro ⟨report, final, runs, -, -, org, user, complete, -⟩
  obtain ⟨present, same⟩ := bootstrap_of_present unfinished.toPresent second
  rw [runs] at present same
  obtain ⟨now, index⟩ := present.index
  obtain ⟨later, indexAgain⟩ := complete.index
  have sameUser : first.userId = user.userId := by
    have rows := index.symm.trans indexAgain
    simp only [Option.some.injEq, indexItem, List.cons.injEq, Prod.mk.injEq, Attr.text.injEq] at rows
    exact rows.1.2
  apply complete.sysadmin
  rw [← sameUser, same, unfinished.notGranted]

/-- The index row alone blocks every later run. -/
theorem not_recovers_of_index (normalize : String → String) (first second : Draw) :
    ¬ Recovers normalize second (withIndex normalize first (withOrg first Dict.empty)) := by
  rintro ⟨report, final, runs, -⟩
  have onlyOrg : (withIndex normalize first (withOrg first Dict.empty)).scanPrefix orgPrefix =
      [(orgPk first.orgId, (newOrg first).modelDump)] := by
    unfold withIndex
    rw [Table.scanPrefix_putItem_of_not _ _ (not_orgPrefix (by simp))]
    exact scanPrefix_withOrg first
  have index : (withIndex normalize first (withOrg first Dict.empty)).getItem
      (userEmailPk (normalize superwomanEmail)) =
        some (indexItem first.userId first.userAt) :=
    Table.getItem_putItem_self _ _ _
  have missing : (withIndex normalize first (withOrg first Dict.empty)).getItem
      (userPk first.userId) = none := by
    unfold withIndex withOrg
    simp (disch := simp) only [Table.getItem_putItem_of_family]
    rfl
  have raises := @bootstrap_of_user_raises _ second _ _ _ _
    (ensureSystemOrg_found onlyOrg rfl) _ _ (ensureUser_dangling index missing)
  rw [runs] at raises
  cases raises

/-- A first run cut off is recovered from exactly when the cut comes before the
index row of the user or after her sysadmin row. -/
theorem recovers_crashed_iff (normalize : String → String) (first second : Draw) (count : Nat) :
    Recovers normalize second (crashed normalize first count) ↔ count ≤ 3 ∨ 10 ≤ count := by
  constructor
  · intro recovers
    by_contra between
    obtain rfl | later : count = 4 ∨ 5 ≤ count ∧ count ≤ 9 := by omega
    · exact not_recovers_of_index normalize first second recovers
    · exact not_recovers_of_unfinished (crashed_between normalize first later.1 later.2) recovers
  · rintro (early | late)
    · have found : runAlone (ensureSystemOrg second) (withOrg first Dict.empty) =
          (.ok (newOrg first, false), withOrg first Dict.empty) :=
        ensureSystemOrg_found (scanPrefix_withOrg first) rfl
      obtain ⟨fresh, freshRun⟩ := @bootstrap_empty normalize second
      obtain ⟨resumed, resumedRun⟩ := @bootstrap_of_org normalize _ _ _ _ found
      obtain rfl | rfl | rfl | rfl : count = 0 ∨ count = 1 ∨ count = 2 ∨ count = 3 := by omega
      · exact recovers_of_completed freshRun
      · exact recovers_of_completed freshRun
      · exact recovers_of_completed resumedRun
      · exact recovers_of_completed resumedRun
    · obtain ⟨more, rfl⟩ := Nat.exists_eq_add_of_le' late
      rw [crashed_add_ten]
      exact recovers_of_completed
        (bootstrap_of_settled (complete_completed first first).toSettled second)

/-- Cut off right after the row of the user is written. -/
theorem not_recovers_crashed_five :
    ¬ Recovers id ⟨"org-2", "user-2", 0, 0, 0, 0⟩ (crashed id ⟨"org", "user", 0, 0, 0, 0⟩ 5) :=
  not_recovers_of_unfinished (crashed_between id _ (by decide) (by decide))

end TradingStrands.Bootstrap
