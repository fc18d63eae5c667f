import TradingStrands.Foundation.Guarantees
import TradingStrands.Tenancy.Store

/-!
Owns the end of a login: the user of the verified address is found, or created if
there is none, and the session gets its active organisation. Logins come in any order,
beside whatever else writes through the tenancy store, and any operation of any of them
may raise. Sessions are for one user if they are for one address: what a call finds or
creates, the index row of the address names from then on.

What Cognito has verified is an input, and so are the ids that are drawn: they are new,
and no two calls draw the same.
-/

namespace TradingStrands

open TradingStrands.Foundation TenancyStore TableProgram

/-- `set_last_active_org`. -/
def TenancyStore.setLastActiveOrg (userId : UserId) (orgId : Option OrgId) (now : Int) :
    TableProgram Unit := do
  match ← updateItem (userPk userId)
      [("last_active_org_id", orgId.elim .null .text), ("updated_at", .number now)] with
  | none => throw .conditionalCheckFailed
  | some _ => return ()

/-- What a session cookie carries. -/
structure SessionInfo where
  userId : UserId
  email : String
  activeOrgId : Option OrgId
  accessToken : String
  loginAt : Int
deriving DecidableEq, Repr

/-- A login that Cognito has verified. -/
structure CognitoLogin where
  email : String
  cognitoSub : String
  accessToken : String
  /-- The id that is drawn if the user is created, and the clock. -/
  userId : UserId
  now : Int

namespace Dashboard

def onlyOrg : List Membership → Option OrgId
  | [membership] => some membership.orgId
  | _ => none

/-- The organisation a session begins in: the last one, if the user is still a member
of it, or the only one. -/
def loginOrg (user : User) (memberships : List Membership) : Option OrgId :=
  match user.lastActiveOrgId with
  | some orgId =>
      if orgId ≠ "" ∧ orgId ∈ memberships.map Membership.orgId then some orgId
      else onlyOrg memberships
  | none => onlyOrg memberships

/-- The user of the address, created if there is none. -/
def findOrCreate (normalize : String → String) (login : CognitoLogin) : TableProgram User := do
  match ← findUserByEmail normalize login.email with
  | some user => return user
  | none =>
      TenancyStore.createUser normalize login.email
        (if login.cognitoSub = "" then none else some login.cognitoSub) "" login.userId login.now

/-- `_finalize_login`. -/
def finalizeLogin (normalize : String → String) (login : CognitoLogin) :
    TableProgram SessionInfo := do
  let user ← findOrCreate normalize login
  let memberships ← membershipsForUser user.userId
  return { userId := user.userId, email := login.email
           activeOrgId := loginOrg user memberships
           accessToken := login.accessToken, loginAt := login.now }

/-- A login, or a call that writes through the tenancy store. -/
inductive TenancyCall
  | login (verified : CognitoLogin)
  | createUser (email : String) (cognitoSub : Option String) (displayName : String)
      (userId : UserId) (now : Int)
  | setLastActiveOrg (userId : UserId) (orgId : Option OrgId) (now : Int)
  | addMembership (userId : UserId) (orgId : OrgId) (role : Role) (now : Int)
  | removeMembership (userId : UserId) (orgId : OrgId)
  | createOrg (name : String) (orgType : OrgType) (orgId : OrgId) (now : Int)
  | grantSysadmin (userId : UserId) (now : Int)
  | revokeSysadmin (userId : UserId)

namespace TenancyCall

variable (normalize : String → String)

/-- What a call does; a login answers its session. -/
def program : TenancyCall → TableProgram (Option SessionInfo)
  | .login verified => do
      let session ← finalizeLogin normalize verified
      return some session
  | .createUser email cognitoSub displayName userId now => do
      let _ ← TenancyStore.createUser normalize email cognitoSub displayName userId now
      return none
  | .setLastActiveOrg userId orgId now => do
      TenancyStore.setLastActiveOrg userId orgId now
      return none
  | .addMembership userId orgId role now => do
      let _ ← TenancyStore.addMembership userId orgId role now
      return none
  | .removeMembership userId orgId => do
      TenancyStore.removeMembership userId orgId
      return none
  | .createOrg name orgType orgId now => do
      let _ ← TenancyStore.createOrg name orgType orgId now
      return none
  | .grantSysadmin userId now => do
      TenancyStore.grantSysadmin userId now
      return none
  | .revokeSysadmin userId => do
      TenancyStore.revokeSysadmin userId
      return none

/-- The id a call draws, and the address it draws it for. -/
def draws : TenancyCall → Option (UserId × String)
  | .login verified => some (verified.userId, normalize verified.email)
  | .createUser email _ _ userId _ => some (userId, normalize email)
  | _ => none

/-- The calls draw different ids. -/
def Apart (left right : TenancyCall) : Prop :=
  ∀ leftDraw rightDraw, left.draws normalize = some leftDraw →
    right.draws normalize = some rightDraw → leftDraw.1 ≠ rightDraw.1

end TenancyCall

/-! ### Rows -/

section Rows

/-- The index row of the address names the user. -/
def Names (table : Table) (address : String) (userId : UserId) : Prop :=
  ∃ item, table.getItem (userEmailPk address) = some item ∧ item.text "user_id" = .ok userId

/-- The user has a record. -/
def Recorded (table : Table) (userId : UserId) : Prop := table.getItem (userPk userId) ≠ none

/-- The address is the user's. -/
structure Settled (table : Table) (address : String) (userId : UserId) : Prop where
  named : Names table address userId
  recorded : Recorded table userId

theorem Names.unique {table : Table} {address : String} {left right : UserId}
    (first : Names table address left) (second : Names table address right) : left = right := by
  obtain ⟨item, stored, reads⟩ := first
  obtain ⟨other, storedToo, readsToo⟩ := second
  obtain rfl := Option.some.inj (stored.symm.trans storedToo)
  exact Except.ok.inj (reads.symm.trans readsToo)

/-- Records are under their own ids, and a user has one address. -/
structure UserRows (table : Table) : Prop where
  own : ∀ userId item other, table.getItem (userPk userId) = some item →
    item.text "user_id" = .ok other → other = userId
  single : ∀ left right userId, Names table left userId → Names table right userId → left = right

theorem names_congr {first second : Table} {address : String} {userId : UserId}
    (index : second.getItem (userEmailPk address) = first.getItem (userEmailPk address)) :
    Names second address userId ↔ Names first address userId := by
  unfold Names
  rw [index]

theorem recorded_congr {first second : Table} {userId : UserId}
    (record : second.getItem (userPk userId) = first.getItem (userPk userId)) :
    Recorded second userId ↔ Recorded first userId := by
  unfold Recorded
  rw [record]

-- for which address an id is drawn
variable (drawn : UserId → Option String)

/-- A drawn id is named by the row of its address only, and by that one as soon as it has
a record. -/
structure Orderly (table : Table) : Prop extends UserRows table where
  names : ∀ address userId other, Names table address userId → drawn userId = some other →
    address = other
  recorded : ∀ userId address, drawn userId = some address → Recorded table userId →
    Names table address userId

/-- What a call may do to the rows: name its id at its address where nothing is named,
record it once it is named, and take the name back as long as it has no record. -/
structure Guarantee (normalize : String → String) (call : TenancyCall) (first second : Table) :
    Prop where
  index : ∀ address, second.getItem (userEmailPk address) = first.getItem (userEmailPk address) ∨
    ∃ userId, call.draws normalize = some (userId, address) ∧ drawn userId = some address ∧
      (first.getItem (userEmailPk address) = none ∧ Names second address userId ∨
        Names first address userId ∧ second.getItem (userEmailPk address) = none ∧
          ¬ Recorded second userId)
  keeps : ∀ userId, Recorded first userId → Recorded second userId
  adds : ∀ userId, Recorded second userId → Recorded first userId ∨
    ∃ address, call.draws normalize = some (userId, address) ∧ Names first address userId

variable {drawn} {normalize : String → String} {call : TenancyCall} {first second : Table}

theorem Guarantee.of_same
    (index : ∀ address, second.getItem (userEmailPk address) = first.getItem (userEmailPk address))
    (records : ∀ userId, Recorded second userId ↔ Recorded first userId) :
    Guarantee drawn normalize call first second :=
  ⟨fun address => Or.inl (index address), fun userId => (records userId).mpr,
    fun userId present => Or.inl ((records userId).mp present)⟩

/-- Where the index rows are left alone, records have to be under their own ids, and the
drawn ids that have one have to be named. -/
theorem Orderly.of_index (orderly : Orderly drawn first)
    (index : ∀ address, second.getItem (userEmailPk address) = first.getItem (userEmailPk address))
    (own : ∀ userId item other, second.getItem (userPk userId) = some item →
      item.text "user_id" = .ok other → other = userId)
    (recorded : ∀ userId address, drawn userId = some address → Recorded second userId →
      Names first address userId) :
    Orderly drawn second where
  own := own
  single left right userId named namedToo := orderly.single left right userId
    ((names_congr (index left)).mp named) ((names_congr (index right)).mp namedToo)
  names address userId other named := orderly.names address userId other
    ((names_congr (index address)).mp named)
  recorded userId address draws present := (names_congr (index address)).mpr
    (recorded userId address draws present)

/-- A settled address stays so. -/
theorem Guarantee.settled (guarantee : Guarantee drawn normalize call first second)
    {address : String} {userId : UserId} (settled : Settled first address userId) :
    Settled second address userId := by
  have recorded := guarantee.keeps userId settled.recorded
  refine ⟨?_, recorded⟩
  obtain ⟨item, stored, reads⟩ := settled.named
  rcases guarantee.index address with same | ⟨other, -, -, ⟨none, -⟩ | ⟨named, -, gone⟩⟩
  · exact ⟨item, same.trans stored, reads⟩
  · exact absurd (stored.symm.trans none) nofun
  · rw [settled.named.unique named] at recorded
    exact absurd recorded gone

/-- A name that another call does not draw stays where it is. -/
theorem Guarantee.names (guarantee : Guarantee drawn normalize call first second)
    {address : String} {userId : UserId} (named : Names first address userId)
    (others : ∀ draw, call.draws normalize = some draw → draw.1 ≠ userId) :
    Names second address userId := by
  obtain ⟨item, stored, reads⟩ := named
  rcases guarantee.index address with same | ⟨other, draws, -, ⟨none, -⟩ | ⟨too, -, -⟩⟩
  · exact ⟨item, same.trans stored, reads⟩
  · exact absurd (stored.symm.trans none) nofun
  · exact absurd (too.unique ⟨item, stored, reads⟩) (others _ draws)

/-- A record that another call does not draw the id of is not added. -/
theorem Guarantee.unrecorded (guarantee : Guarantee drawn normalize call first second)
    {userId : UserId} (absent : ¬ Recorded first userId)
    (others : ∀ draw, call.draws normalize = some draw → draw.1 ≠ userId) :
    ¬ Recorded second userId := by
  intro present
  rcases guarantee.adds userId present with before | ⟨address, draws, -⟩
  · exact absent before
  · exact others _ draws rfl

/-- A name that no call draws stays where it is. -/
theorem Guarantee.undrawn (guarantee : Guarantee drawn normalize call first second)
    {address : String} {userId : UserId} (free : drawn userId = none)
    (named : Names first address userId) : Names second address userId := by
  obtain ⟨item, stored, reads⟩ := named
  rcases guarantee.index address with same | ⟨other, -, draws, ⟨none, -⟩ | ⟨too, -, -⟩⟩
  · exact ⟨item, same.trans stored, reads⟩
  · exact absurd (stored.symm.trans none) nofun
  · rw [too.unique ⟨item, stored, reads⟩, free] at draws
    cases draws

/-- What calls apart from one's own can have done. -/
abbrev Among (drawn : UserId → Option String) (normalize : String → String) (call : TenancyCall) :
    Table → Table → Prop :=
  Program.Others (Orderly drawn) (TenancyCall.Apart normalize) (Guarantee drawn normalize) call

/-- A user that an index row named has kept the row if it has a record later. -/
theorem named_later {address : String} {userId : UserId} (orderly : Orderly drawn first)
    (named : Names first address userId) (between : Among drawn normalize call first second)
    (later : Orderly drawn second) (recorded : Recorded second userId) :
    Names second address userId := by
  cases draws : drawn userId with
  | some other =>
      rw [orderly.names address userId other named draws]
      exact later.recorded userId other draws recorded
  | none =>
      exact between.keeps (fun table => Names table address userId)
        (fun _ _ _ _ _ _ guarantee named => guarantee.undrawn draws named) named

end Rows

/-! ### Operations -/

section Writes

variable {drawn : UserId → Option String} {normalize : String → String} {call : TenancyCall}
  {table : Table} {userId : UserId} {address : String}

/-- An operation away from the rows of users and addresses. -/
theorem orderly_of_writesIn {families : List (List Char)} {op : TableOp}
    (within : op.WritesIn families)
    (apart : ∀ family ∈ families, family ∉ ["USEREMAIL".toList, "USER".toList])
    (orderly : Orderly drawn table) :
    Orderly drawn (op.apply table).2 ∧ Guarantee drawn normalize call table (op.apply table).2 ∧
      ∀ address userId, Settled (op.apply table).2 address userId ↔ Settled table address userId := by
  have index : ∀ address, (op.apply table).2.getItem (userEmailPk address) =
      table.getItem (userEmailPk address) := fun address =>
    within.getItem_apply (fun member => apart _ member (by simp)) table
  have record : ∀ userId, (op.apply table).2.getItem (userPk userId) =
      table.getItem (userPk userId) := fun userId =>
    within.getItem_apply (fun member => apart _ member (by simp)) table
  have recorded : ∀ userId, Recorded (op.apply table).2 userId ↔ Recorded table userId :=
    fun userId => recorded_congr (record userId)
  refine ⟨orderly.of_index index ?_ ?_, Guarantee.of_same index recorded, ?_⟩
  · intro userId item other stored
    rw [record] at stored
    exact orderly.own userId item other stored
  · exact fun userId address draws present =>
      orderly.recorded userId address draws ((recorded userId).mp present)
  · intro address userId
    constructor
    · exact fun settled => ⟨(names_congr (index address)).mp settled.named,
        (recorded userId).mp settled.recorded⟩
    · exact fun settled => ⟨(names_congr (index address)).mpr settled.named,
        (recorded userId).mpr settled.recorded⟩

/-- A name is written where nothing is named yet. -/
theorem orderly_name (orderly : Orderly drawn table) (draws : drawn userId = some address)
    (mine : call.draws normalize = some (userId, address)) (now : Int)
    (free : table.getItem (userEmailPk address) = none) :
    let named := table.putItem (userEmailPk address)
      [("user_id", .text userId), ("created_at", .number now)]
    Orderly drawn named ∧ Guarantee drawn normalize call table named ∧
      Names named address userId ∧ ¬ Recorded named userId := by
  intro named
  have index : ∀ other, named.getItem (userEmailPk other) =
      if other = address then some [("user_id", .text userId), ("created_at", .number now)]
      else table.getItem (userEmailPk other) := fun other => by
    simp only [named, Table.getItem_putItem, userEmailPk_inj]
  have record : ∀ other, named.getItem (userPk other) = table.getItem (userPk other) := fun other =>
    Table.getItem_putItem_of_family table _ (by simp)
  have here : Names named address userId := ⟨_, (index address).trans (if_pos rfl), rfl⟩
  have unnamed : ∀ other, ¬ Names table address other := by
    rintro other ⟨item, stored, -⟩
    exact Option.some_ne_none item (stored.symm.trans free)
  have kept : ∀ other user, other ≠ address → (Names named other user ↔ Names table other user) :=
    fun other user different => names_congr ((index other).trans (if_neg different))
  have recorded : ∀ other, Recorded named other ↔ Recorded table other :=
    fun other => recorded_congr (record other)
  -- before, the drawn id was named nowhere
  have only : ∀ other, Names named other userId → other = address := fun other names =>
    by_contra fun different => different
      (orderly.names other userId address ((kept other userId different).mp names) draws)
  refine ⟨⟨⟨?_, ?_⟩, ?_, ?_⟩, ⟨?_, ?_, ?_⟩, here, ?_⟩
  · intro user item other stored
    rw [record] at stored
    exact orderly.own user item other stored
  · intro left right user first second
    by_cases mineToo : user = userId
    · subst mineToo
      exact (only left first).trans (only right second).symm
    · have elsewhere : ∀ other, Names named other user → other ≠ address := fun other names same =>
        mineToo ((same ▸ names).unique here)
      exact orderly.single left right user ((kept left user (elsewhere left first)).mp first)
        ((kept right user (elsewhere right second)).mp second)
  · intro other user drawnFor names drawnUser
    by_cases same : other = address
    · subst same
      rw [names.unique here, draws] at drawnUser
      exact Option.some.inj drawnUser
    · exact orderly.names other user drawnFor ((kept other user same).mp names) drawnUser
  · intro user other drawnUser present
    have names := orderly.recorded user other drawnUser ((recorded user).mp present)
    exact (kept other user fun same => unnamed user (same ▸ names)).mpr names
  · intro other
    by_cases same : other = address
    · subst same
      exact Or.inr ⟨userId, mine, draws, Or.inl ⟨free, here⟩⟩
    · exact Or.inl ((index other).trans (if_neg same))
  · exact fun user => (recorded user).mpr
  · exact fun user present => Or.inl ((recorded user).mp present)
  · exact fun present =>
      unnamed userId (orderly.recorded userId address draws ((recorded userId).mp present))

/-- A record is written under an id that is named. -/
theorem orderly_record (orderly : Orderly drawn table) (draws : drawn userId = some address)
    (mine : call.draws normalize = some (userId, address)) (named : Names table address userId)
    (user : User) (own : user.userId = userId) :
    let recorded := table.putItem (userPk userId) user.modelDump
    Orderly drawn recorded ∧ Guarantee drawn normalize call table recorded ∧
      Settled recorded address userId := by
  intro recorded
  have index : ∀ other, recorded.getItem (userEmailPk other) = table.getItem (userEmailPk other) :=
    fun other => Table.getItem_putItem_of_family table _ (by simp)
  have record : ∀ other, recorded.getItem (userPk other) =
      if other = userId then some user.modelDump else table.getItem (userPk other) := fun other => by
    simp only [recorded, Table.getItem_putItem, userPk_inj]
  have present : Recorded recorded userId := by
    unfold Recorded
    rw [record, if_pos rfl]
    exact Option.some_ne_none _
  have kept : ∀ other, other ≠ userId → (Recorded recorded other ↔ Recorded table other) :=
    fun other different => recorded_congr ((record other).trans (if_neg different))
  refine ⟨orderly.of_index index ?_ ?_, ⟨fun other => Or.inl (index other), ?_, ?_⟩,
    ⟨(names_congr (index address)).mpr named, present⟩⟩
  · intro other item owner stored reads
    rw [record] at stored
    by_cases same : other = userId
    · rw [if_pos same] at stored
      obtain rfl := Option.some.inj stored
      exact (Except.ok.inj reads).symm.trans (own.trans same.symm)
    · rw [if_neg same] at stored
      exact orderly.own other item owner stored reads
  · intro other drawnFor drawnUser there
    by_cases same : other = userId
    · subst same
      rw [draws] at drawnUser
      exact Option.some.inj drawnUser ▸ named
    · exact orderly.recorded other drawnFor drawnUser ((kept other same).mp there)
  · intro other there
    by_cases same : other = userId
    · exact same ▸ present
    · exact (kept other same).mpr there
  · intro other there
    by_cases same : other = userId
    · exact Or.inr ⟨address, same ▸ mine, same ▸ named⟩
    · exact Or.inl ((kept other same).mp there)

/-- A name is taken back as long as there is no record. -/
theorem orderly_unname (orderly : Orderly drawn table) (draws : drawn userId = some address)
    (mine : call.draws normalize = some (userId, address)) (named : Names table address userId)
    (absent : ¬ Recorded table userId) :
    let unnamed := table.deleteItem (userEmailPk address)
    Orderly drawn unnamed ∧ Guarantee drawn normalize call table unnamed := by
  intro unnamed
  have index : ∀ other, unnamed.getItem (userEmailPk other) =
      if other = address then none else table.getItem (userEmailPk other) := fun other => by
    simp only [unnamed, Table.getItem_deleteItem, userEmailPk_inj]
  have record : ∀ other, unnamed.getItem (userPk other) = table.getItem (userPk other) :=
    fun other => Table.getItem_deleteItem_of_family table (by simp)
  have recorded : ∀ other, Recorded unnamed other ↔ Recorded table other :=
    fun other => recorded_congr (record other)
  have fewer : ∀ other user, Names unnamed other user → Names table other user := by
    rintro other user ⟨item, stored, reads⟩
    rw [index] at stored
    split at stored
    · cases stored
    · exact ⟨item, stored, reads⟩
  refine ⟨⟨⟨?_, ?_⟩, ?_, ?_⟩, ⟨?_, fun other => (recorded other).mpr,
    fun other present => Or.inl ((recorded other).mp present)⟩⟩
  · intro user item other stored
    rw [record] at stored
    exact orderly.own user item other stored
  · exact fun left right user first second => orderly.single left right user
      (fewer left user first) (fewer right user second)
  · exact fun other user drawnFor here => orderly.names other user drawnFor (fewer other user here)
  · intro user other drawnUser present
    have before := (recorded user).mp present
    obtain ⟨item, stored, reads⟩ := orderly.recorded user other drawnUser before
    have different : other ≠ address := fun same =>
      absent (named.unique ⟨item, same ▸ stored, reads⟩ ▸ before)
    exact ⟨item, (index other).trans ((if_neg different).trans stored), reads⟩
  · intro other
    by_cases same : other = address
    · subst same
      exact Or.inr ⟨userId, mine, draws, Or.inr ⟨named, (index other).trans (if_pos rfl),
        fun present => absent ((recorded userId).mp present)⟩⟩
    · exact Or.inl ((index other).trans (if_neg same))

end Writes

/-! ### Calls -/

section Calls

open Program

variable {drawn : UserId → Option String} {normalize : String → String} {call : TenancyCall}

theorem guarantee_refl (table : Table) : Guarantee drawn normalize call table table :=
  .of_same (fun _ => rfl) fun _ => Iff.rfl

/-- The program withstands the other calls. -/
abbrev Stands {α : Type} (drawn : UserId → Option String) (normalize : String → String)
    (call : TenancyCall) (Ends : Except CallError α → Table → Prop) (program : TableProgram α)
    (table : Table) : Prop :=
  program.Withstands TableOp.apply (Orderly drawn) (TenancyCall.Apart normalize)
    (Guarantee drawn normalize) call Ends table

theorem text_of_modelValidate {item : Item} {user : User}
    (validates : User.modelValidate item = .ok user) : item.text "user_id" = .ok user.userId := by
  obtain ⟨userId, readId, rest⟩ := bind_ok_iff.mp validates
  obtain ⟨email, -, rest⟩ := bind_ok_iff.mp rest
  obtain ⟨cognitoSub, -, rest⟩ := bind_ok_iff.mp rest
  obtain ⟨displayName, -, rest⟩ := bind_ok_iff.mp rest
  obtain ⟨displayTimezone, -, rest⟩ := bind_ok_iff.mp rest
  obtain ⟨lastActiveOrgId, -, rest⟩ := bind_ok_iff.mp rest
  obtain ⟨createdAt, -, rest⟩ := bind_ok_iff.mp rest
  obtain ⟨updatedAt, -, rest⟩ := bind_ok_iff.mp rest
  cases rest
  exact readId

/-- Where a user is found, the address is the user's at that moment. -/
theorem findUserByEmail_stands (email : String) (table : Table) :
    Stands drawn normalize call
      (fun outcome later => ∀ user, outcome = .ok (some user) →
        Settled later (normalize email) user.userId)
      (findUserByEmail normalize email) table := by
  unfold findUserByEmail
  refine Withstands.perform_bind (fun later _ orderly => ⟨orderly, guarantee_refl later, ?_⟩)
    fun _ _ _ same => nomatch same
  dsimp only [TableOp.apply]
  cases stored : later.getItem (userEmailPk (normalize email)) with
  | none => exact fun _ same => nomatch same
  | some item =>
      dsimp only
      cases reads : item.text "user_id" with
      | error error => exact fun _ same => nomatch same
      | ok userId =>
          have named : Names later (normalize email) userId := ⟨item, stored, reads⟩
          refine Withstands.tryCatch (fun outcome after => ∀ user,
            outcome = .ok (some user) → Settled after (normalize email) user.userId) ?_
            (fun _ _ ends => ends) fun error after _ => ?_
          · refine Withstands.bind (fun outcome after => ∀ user,
              outcome = .ok user → Settled after (normalize email) user.userId) ?_
              (fun found after ends user same => ends user ?_) (fun _ _ _ _ same => nomatch same)
            · refine Withstands.perform_bind (fun after between orderlyAfter =>
                ⟨orderlyAfter, guarantee_refl after, ?_⟩) fun _ _ _ same => nomatch same
              dsimp only [TableOp.apply]
              cases record : after.getItem (userPk userId) with
              | none => exact fun _ same => nomatch same
              | some row =>
                  intro user validates
                  have recorded : Recorded after userId := by
                    unfold Recorded
                    rw [record]
                    exact Option.some_ne_none row
                  have own := orderlyAfter.own userId row user.userId record
                    (text_of_modelValidate validates)
                  rw [own]
                  exact ⟨named_later orderly named between orderlyAfter recorded, recorded⟩
            · exact Option.some.inj (Except.ok.inj same) ▸ rfl
          · cases error <;> exact fun _ same => nomatch same

/-- A conditional put, by whether the key is there. -/
theorem stands_putNew {β : Type} {pk : String} {item : Item} {rest : Bool → TableProgram β}
    {Last : Except CallError β → Table → Prop} {table : Table}
    (taken : ∀ later, Orderly drawn later → Stands drawn normalize call Last (rest false) later)
    (free : ∀ later, Orderly drawn later → later.getItem pk = none →
      Orderly drawn (later.putItem pk item) ∧
        Guarantee drawn normalize call later (later.putItem pk item) ∧
          Stands drawn normalize call Last (rest true) (later.putItem pk item))
    (raised : ∀ error later, Last (.error error) later) :
    Stands drawn normalize call Last (putNew pk item >>= rest) table := by
  refine Withstands.perform_bind (fun later _ orderly => ?_) raised
  cases stored : later.getItem pk with
  | none =>
      have applied : (TableOp.putNew pk item).apply later = (true, later.putItem pk item) := by
        simp only [TableOp.apply, stored]
      rw [applied]
      exact free later orderly stored
  | some other =>
      have applied : (TableOp.putNew pk item).apply later = (false, later) := by
        simp only [TableOp.apply, stored]
      rw [applied]
      exact ⟨orderly, guarantee_refl later, taken later orderly⟩

/-- Where a user is created, the address is the new user's. -/
theorem createUser_stands {email : String} {userId : UserId}
    (draws : drawn userId = some (normalize email))
    (mine : call.draws normalize = some (userId, normalize email)) (cognitoSub : Option String)
    (displayName : String) (now : Int) (table : Table) :
    Stands drawn normalize call
      (fun outcome later => ∀ user, outcome = .ok user →
        Settled later (normalize email) user.userId)
      (TenancyStore.createUser normalize email cognitoSub displayName userId now) table := by
  -- the others neither take the name back nor write the record
  have others : ∀ {other : TenancyCall}, TenancyCall.Apart normalize call other →
      ∀ draw, other.draws normalize = some draw → draw.1 ≠ userId :=
    fun apart draw drawsToo => (apart _ draw mine drawsToo).symm
  have kept : ∀ {first second : Table}, Among drawn normalize call first second →
      Names first (normalize email) userId ∧ ¬ Recorded first userId →
        Names second (normalize email) userId ∧ ¬ Recorded second userId := by
    intro first second between
    exact between.keeps (fun table =>
      Names table (normalize email) userId ∧ ¬ Recorded table userId)
      fun _ _ other _ _ apart guarantee fact =>
        ⟨guarantee.names fact.1 (others apart), guarantee.unrecorded fact.2 (others apart)⟩
  unfold TenancyStore.createUser
  refine stands_putNew (fun later _ => fun _ same => nomatch same) (fun later orderly free => ?_)
    fun _ _ _ same => nomatch same
  obtain ⟨orderlyNamed, guarantee, named⟩ := orderly_name orderly draws mine now free
  refine ⟨orderlyNamed, guarantee, ?_⟩
  refine Withstands.bind (fun outcome after => outcome = .ok () →
    Settled after (normalize email) userId) ?_
    (fun _ after settled user same => Except.ok.inj same ▸ settled rfl)
    (fun _ _ _ _ same => nomatch same)
  refine Withstands.tryCatch (fun outcome after => (outcome = .ok () →
    Settled after (normalize email) userId) ∧ ((∃ error, outcome = .error error) →
      Names after (normalize email) userId ∧ ¬ Recorded after userId)) ?_
    (fun _ _ ends => ends.1) fun error after ends => ?_
  · intro after between orderlyAfter
    have still := kept between named
    obtain ⟨orderlyRecorded, guaranteeRecorded, settled⟩ :=
      orderly_record orderlyAfter draws mine still.1
        ⟨userId, email, cognitoSub, displayName, "UTC", none, now, now⟩ rfl
    exact ⟨⟨orderlyRecorded, guaranteeRecorded, fun _ => settled, fun ⟨_, same⟩ => nomatch same⟩,
      fun _ => ⟨nofun, fun _ => still⟩⟩
  · intro last between orderlyLast
    have still := kept between (ends.2 ⟨error, rfl⟩)
    obtain ⟨orderlyUnnamed, guaranteeUnnamed⟩ :=
      orderly_unname orderlyLast draws mine still.1 still.2
    exact ⟨⟨orderlyUnnamed, guaranteeUnnamed, nofun⟩, fun _ => nofun⟩

/-- What others do keeps a settled address. -/
theorem Settled.among {first second : Table} {address : String} {userId : UserId}
    (settled : Settled first address userId)
    (between : Among drawn normalize call first second) : Settled second address userId :=
  between.keeps (fun table => Settled table address userId)
    (fun _ _ _ _ _ _ guarantee => guarantee.settled) settled

theorem findOrCreate_stands {login : CognitoLogin}
    (draws : drawn login.userId = some (normalize login.email))
    (mine : call.draws normalize = some (login.userId, normalize login.email)) (table : Table) :
    Stands drawn normalize call
      (fun outcome later => ∀ user, outcome = .ok user →
        Settled later (normalize login.email) user.userId)
      (findOrCreate normalize login) table := by
  unfold findOrCreate
  refine Withstands.bind _ (findUserByEmail_stands login.email table) (fun existing later ends => ?_)
    fun _ _ _ _ same => nomatch same
  cases existing with
  | some user => exact fun found same => ends found (congrArg _ (congrArg some (Except.ok.inj same)))
  | none => exact createUser_stands draws mine _ _ _ later

theorem finalizeLogin_stands {login : CognitoLogin}
    (draws : drawn login.userId = some (normalize login.email))
    (mine : call.draws normalize = some (login.userId, normalize login.email)) (table : Table) :
    Stands drawn normalize call
      (fun outcome later => ∀ session, outcome = .ok session →
        Settled later (normalize login.email) session.userId)
      (finalizeLogin normalize login) table := by
  unfold finalizeLogin
  refine Withstands.bind _ (findOrCreate_stands draws mine table) (fun user after settled => ?_)
    fun _ _ _ _ same => nomatch same
  refine Withstands.bind (fun _ last => Settled last (normalize login.email) user.userId) ?_
    (fun memberships last still session same => Except.ok.inj same ▸ still)
    fun _ _ _ _ same => nomatch same
  refine All.withstands _ (membershipsForUser_reads user.userId) (fun op state within orderly fact => ?_)
    (fun _ _ between fact => fact.among between) (fun _ _ fact => fact) (settled user rfl)
  obtain ⟨kept, guarantee, same⟩ := orderly_of_writesIn within (by simp) orderly
  exact ⟨kept, guarantee, (same _ _).mpr fact⟩

/-- A call that writes elsewhere. -/
theorem stands_of_writesIn {α : Type} {families : List (List Char)} {program : TableProgram α}
    {Ends : Except CallError α → Table → Prop} (writes : WritesIn families program)
    (apart : ∀ family ∈ families, family ∉ ["USEREMAIL".toList, "USER".toList])
    (ends : ∀ outcome later, Ends outcome later) (table : Table) :
    Stands drawn normalize call Ends program table := by
  refine All.withstands (fun _ => True) writes (fun op state within orderly _ => ?_)
    (fun _ _ _ _ => trivial) (fun outcome later _ => ends outcome later) trivial
  obtain ⟨kept, guarantee, -⟩ := orderly_of_writesIn within apart orderly
  exact ⟨kept, guarantee, trivial⟩

/-- An update of a record leaves the id it is under. -/
theorem orderly_update {table : Table} {userId : UserId} {item : Item}
    (orderly : Orderly drawn table) (stored : table.getItem (userPk userId) = some item)
    (fields : List (String × Attr)) (others : ∀ field ∈ fields, field.1 ≠ "user_id") :
    let updated := table.putItem (userPk userId) (item.update fields)
    Orderly drawn updated ∧ Guarantee drawn normalize call table updated := by
  intro updated
  have index : ∀ other, updated.getItem (userEmailPk other) = table.getItem (userEmailPk other) :=
    fun other => Table.getItem_putItem_of_family table _ (by simp)
  have record : ∀ other, updated.getItem (userPk other) =
      if other = userId then some (item.update fields) else table.getItem (userPk other) :=
    fun other => by simp only [updated, Table.getItem_putItem, userPk_inj]
  have recorded : ∀ other, Recorded updated other ↔ Recorded table other := fun other => by
    unfold Recorded
    rw [record]
    by_cases same : other = userId
    · simp [same, stored]
    · rw [if_neg same]
  refine ⟨orderly.of_index index ?_ ?_, .of_same index recorded⟩
  · intro user row owner found reads
    rw [record] at found
    by_cases same : user = userId
    · rw [if_pos same] at found
      obtain rfl := Option.some.inj found
      unfold Item.text at reads
      rw [Item.attr?_update_of_notMem item others] at reads
      exact same ▸ orderly.own userId item owner stored reads
    · rw [if_neg same] at found
      exact orderly.own user row owner found reads
  · exact fun user other drawnUser present =>
      orderly.recorded user other drawnUser ((recorded user).mp present)

theorem setLastActiveOrg_stands {Ends : Except CallError Unit → Table → Prop} (userId : UserId)
    (orgId : Option OrgId) (now : Int) (ends : ∀ outcome later, Ends outcome later) (table : Table) :
    Stands drawn normalize call Ends (TenancyStore.setLastActiveOrg userId orgId now) table := by
  unfold TenancyStore.setLastActiveOrg
  refine Withstands.perform_bind (fun later _ orderly => ?_) fun error later => ends _ later
  cases stored : later.getItem (userPk userId) with
  | none =>
      simp only [TableOp.apply, stored]
      exact ⟨orderly, guarantee_refl later, ends _ later⟩
  | some item =>
      have updates : Orderly drawn _ ∧ Guarantee drawn normalize call later _ :=
        orderly_update orderly stored
          [("last_active_org_id", orgId.elim .null .text), ("updated_at", .number now)] (by simp)
      simp only [TableOp.apply, stored]
      exact ⟨updates.1, updates.2, ends _ _⟩

theorem grantSysadmin_writesIn (userId : UserId) (now : Int) :
    WritesIn ["SYSADMIN".toList] (TenancyStore.grantSysadmin userId now) :=
  writesIn_putItem (by simp)

theorem revokeSysadmin_writesIn (userId : UserId) :
    WritesIn ["SYSADMIN".toList] (TenancyStore.revokeSysadmin userId) :=
  writesIn_deleteItem (by simp)

/-- What a call has at its end: a session is for the user of its address. -/
def SessionSettled (normalize : String → String) (call : TenancyCall)
    (outcome : Except CallError (Option SessionInfo)) (table : Table) : Prop :=
  ∀ session, outcome = .ok (some session) → ∃ verified, call = .login verified ∧
    Settled table (normalize verified.email) session.userId

/-- A call that answers no session. -/
theorem answersNone_stands {α : Type} {program : TableProgram α}
    {Ends : Except CallError α → Table → Prop} {table : Table}
    (stands : Stands drawn normalize call Ends program table) :
    Stands drawn normalize call (SessionSettled normalize call)
      (do let _ ← program; return none) table :=
  Withstands.bind Ends stands (fun _ _ _ _ same => nomatch same) fun _ _ _ _ same => nomatch same

theorem program_stands (call : TenancyCall)
    (proper : ∀ userId address, call.draws normalize = some (userId, address) →
      drawn userId = some address) (table : Table) :
    Stands drawn normalize call (SessionSettled normalize call) (call.program normalize) table := by
  -- the calls that write neither index rows nor records
  have elsewhere : ∀ {α : Type} {families : List (List Char)} {program : TableProgram α},
      WritesIn families program → (∀ family ∈ families, family ∉ ["USEREMAIL".toList, "USER".toList]) →
        Stands drawn normalize call (fun _ _ => True) program table :=
    fun writes apart => stands_of_writesIn writes apart (fun _ _ => trivial) table
  cases call with
  | login verified =>
      refine Withstands.bind _ (finalizeLogin_stands (proper _ _ rfl) rfl table)
        (fun session later settled other same => ?_) fun _ _ _ _ same => nomatch same
      obtain rfl := Option.some.inj (Except.ok.inj same)
      exact ⟨verified, rfl, settled session rfl⟩
  | createUser email cognitoSub displayName userId now =>
      exact answersNone_stands (createUser_stands (proper _ _ rfl) rfl _ _ _ table)
  | setLastActiveOrg userId orgId now =>
      exact answersNone_stands (setLastActiveOrg_stands userId orgId now (fun _ _ => trivial) table)
  | addMembership userId orgId role now =>
      exact answersNone_stands (elsewhere (addMembership_writesIn userId orgId role now) (by decide))
  | removeMembership userId orgId =>
      exact answersNone_stands (elsewhere (removeMembership_writesIn userId orgId) (by decide))
  | createOrg name orgType orgId now =>
      exact answersNone_stands (elsewhere (createOrg_writesIn name orgType orgId now) (by decide))
  | grantSysadmin userId now =>
      exact answersNone_stands (elsewhere (grantSysadmin_writesIn userId now) (by decide))
  | revokeSysadmin userId =>
      exact answersNone_stands (elsewhere (revokeSysadmin_writesIn userId) (by decide))

end Calls

/-! ### Runs -/

section Runs

variable {normalize : String → String}

/-- The table and the calls under way. -/
abbrev TenancyPool : Type :=
  Pool TableOp TableOp.Answer CallError (Option SessionInfo) Table TenancyCall

abbrev TenancyPool.step (normalize : String → String) (pool : TenancyPool)
    (event : PoolEvent CallError TenancyCall) : TenancyPool :=
  Pool.step TableOp.apply (TenancyCall.program normalize) pool event

/-- The ids that the calls draw, with the addresses. -/
def drawsOf (normalize : String → String) (calls : List TenancyCall) : List (UserId × String) :=
  calls.filterMap (TenancyCall.draws normalize)

/-- The ids that the calls draw are new, and no two of them are the same. -/
structure FreshDraws (normalize : String → String) (table : Table) (calls : List TenancyCall) :
    Prop where
  distinct : ((drawsOf normalize calls).map Prod.fst).Nodup
  unrecorded : ∀ draw ∈ drawsOf normalize calls, ¬ Recorded table draw.1
  unnamed : ∀ draw ∈ drawsOf normalize calls, ∀ address, ¬ Names table address draw.1

/-- The address that an id is drawn for. -/
def drawnIn (draws : List (UserId × String)) (userId : UserId) : Option String :=
  ((Dict.empty : Dict UserId String).setAll draws).get? userId

theorem drawnIn_of_mem {draws : List (UserId × String)} (distinct : (draws.map Prod.fst).Nodup)
    {draw : UserId × String} (member : draw ∈ draws) : drawnIn draws draw.1 = some draw.2 :=
  Dict.get?_setAll_of_mem member fun _ inDraws same =>
    congrArg Prod.snd (List.inj_on_of_nodup_map distinct inDraws member same)

theorem mem_of_drawnIn {draws : List (UserId × String)} {userId : UserId} {address : String}
    (drawn : drawnIn draws userId = some address) : ∃ draw ∈ draws, draw.1 = userId := by
  by_contra absent
  have none : drawnIn draws userId = none :=
    Dict.get?_setAll_of_notMem fun member => absent (List.mem_map.mp member)
  exact nomatch none.symm.trans drawn

theorem FreshDraws.orderly {table : Table} {calls : List TenancyCall}
    (fresh : FreshDraws normalize table calls) (rows : UserRows table) :
    Orderly (drawnIn (drawsOf normalize calls)) table := by
  refine ⟨rows, fun address userId other named drawn => ?_, fun userId address drawn present => ?_⟩
  · obtain ⟨draw, member, rfl⟩ := mem_of_drawnIn drawn
    exact absurd named (fresh.unnamed draw member address)
  · obtain ⟨draw, member, rfl⟩ := mem_of_drawnIn drawn
    exact absurd present (fresh.unrecorded draw member)

theorem FreshDraws.apart {table : Table} {calls : List TenancyCall}
    (fresh : FreshDraws normalize table calls) :
    calls.Pairwise (TenancyCall.Apart normalize) := by
  have apart := List.pairwise_filterMap.mp (List.pairwise_map.mp fresh.distinct)
  exact apart.imp fun different leftDraw rightDraw left right =>
    different leftDraw left rightDraw right

theorem SessionSettled.among {drawn : UserId → Option String} {call : TenancyCall}
    {outcome : Except CallError (Option SessionInfo)} {first second : Table}
    (between : Among drawn normalize call first second)
    (settled : SessionSettled normalize call outcome first) :
    SessionSettled normalize call outcome second := by
  intro session same
  obtain ⟨verified, login, there⟩ := settled session same
  exact ⟨verified, login, there.among between⟩

/-- The session that a thread has returned, and the address that it is for. -/
def returnedSession (normalize : String → String)
    (thread : Thread TableOp TableOp.Answer CallError (Option SessionInfo) TenancyCall) :
    Option (String × SessionInfo) :=
  match thread.request, thread.program with
  | .login verified, .done (.ok (some session)) => some (normalize verified.email, session)
  | _, _ => none

/-- What the logins of any run have returned, whose operations are performed or raise
without effect: each address is its session's user's, and sessions are for one user
exactly if they are for one address. -/
theorem sessions_agree (start : Table) (rows : UserRows start)
    (events : List (PoolEvent CallError TenancyCall))
    (fresh : FreshDraws normalize start (events.filterMap PoolEvent.started?)) :
    let pool : TenancyPool := events.foldl (TenancyPool.step normalize) { state := start }
    let sessions := pool.threads.filterMap (returnedSession normalize)
    (∀ session ∈ sessions, Settled pool.state session.1 session.2.userId) ∧
      ∀ left ∈ sessions, ∀ right ∈ sessions,
        left.2.userId = right.2.userId ↔ left.1 = right.1 := by
  intro pool sessions
  have withstood : pool.Withstood TableOp.apply
      (Orderly (drawnIn (drawsOf normalize (events.filterMap PoolEvent.started?))))
      (TenancyCall.Apart normalize)
      (Guarantee (drawnIn (drawsOf normalize (events.filterMap PoolEvent.started?))) normalize)
      (SessionSettled normalize) := by
    refine Pool.Withstood.run
      (fun left right apart rightDraw leftDraw draws drawsToo =>
        (apart leftDraw rightDraw drawsToo draws).symm)
      (fun request outcome first second between settled => settled.among between)
      ⟨fresh.orderly rows, List.Pairwise.nil, fun index thread found => absurd found (by simp)⟩
      fresh.apart fun call member state _ => ?_
    refine program_stands call (fun userId address draws => ?_) state
    exact drawnIn_of_mem fresh.distinct (List.mem_filterMap.mpr ⟨call, member, draws⟩)
  have settled : ∀ session ∈ sessions, Settled pool.state session.1 session.2.userId := by
    intro session member
    obtain ⟨thread, inPool, returned⟩ := List.mem_filterMap.mp member
    obtain ⟨index, found⟩ := List.mem_iff_getElem?.mp inPool
    have stands := withstood.withstand index thread found
    obtain ⟨request, program⟩ := thread
    unfold returnedSession at returned
    dsimp only at returned stands
    split at returned
    next verified session =>
      obtain rfl := Option.some.inj returned
      obtain ⟨other, same, there⟩ := stands session rfl
      obtain rfl := TenancyCall.login.inj same
      exact there
    next => cases returned
  refine ⟨settled, fun left leftMember right rightMember => ⟨fun same => ?_, fun same => ?_⟩⟩
  · exact withstood.invariant.single _ _ _ (settled left leftMember).named
      (same ▸ (settled right rightMember).named)
  · exact (settled left leftMember).named.unique (same ▸ (settled right rightMember).named)

def lowered (email : String) : String := String.ofList (email.toList.map Char.toLower)

/-- Two logins for one address find no user. The one that comes second to name it is
refused; a third, written in capitals, finds the user that the first has created. -/
def threeLogins : List (PoolEvent CallError TenancyCall) :=
  let login (email : String) (userId : UserId) : PoolEvent CallError TenancyCall :=
    .start (.login ⟨email, "", "token", userId, 0⟩)
  let advance (thread : Nat) : PoolEvent CallError TenancyCall := .advance thread none
  [login "Ann@example.com" "u1", login "ann@example.com" "u2", advance 0, advance 1, advance 0,
    advance 1, advance 0, advance 0, login "ANN@EXAMPLE.COM" "u3", advance 2, advance 2, advance 2]

theorem sessions_agree_threeLogins :
    let pool : TenancyPool :=
      threeLogins.foldl (TenancyPool.step lowered) { state := Dict.empty }
    let sessions := pool.threads.filterMap (returnedSession lowered)
    sessions.map (fun session => (session.1, session.2.userId)) =
        [("ann@example.com", "u1"), ("ann@example.com", "u1")] ∧
      ∀ session ∈ sessions, Settled pool.state session.1 session.2.userId := by
  have rows : UserRows Dict.empty := by
    constructor
    · rintro userId item other ⟨⟩
    · rintro left right userId ⟨item, ⟨⟩, _⟩
  have fresh : FreshDraws lowered Dict.empty
      (threeLogins.filterMap PoolEvent.started?) := by
    refine ⟨by decide +kernel, fun draw _ => ?_, fun draw _ address => ?_⟩
    · exact fun present => present rfl
    · rintro ⟨item, ⟨⟩, _⟩
  exact ⟨by decide +kernel, (sessions_agree Dict.empty rows threeLogins fresh).1⟩

end Runs

end Dashboard

end TradingStrands
