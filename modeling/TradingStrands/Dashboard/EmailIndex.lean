import TradingStrands.Bootstrap.Recovery
import TradingStrands.Dashboard.Admin

/-!
Owns the index of users by address, when users are created and deleted, any
write may fail and the process may stop between two writes. The index row comes
before the record on creation and on deletion, and each of the two orders has a
point at which only one of the rows is there.
-/

namespace TradingStrands

open TradingStrands.Foundation TenancyStore TableProgram

namespace EmailIndex

/-! ### Calls -/

inductive UserCall
  | createUser (email : String) (cognitoSub : Option String) (displayName : String)
      (userId : UserId) (now : Int)
  | deleteUser (session : Option Session) (userId : UserId)

/-- A call, and what happens at each of its operations. -/
structure Attempt where
  call : UserCall
  plan : TableOp → Program.Fate CallError

def step (deploy : Deploy) (table : Table) (attempt : Attempt) : Table :=
  match attempt.call with
  | .createUser email cognitoSub displayName userId now =>
      ((TenancyStore.createUser deploy.normalize email cognitoSub displayName userId now).execute
        TableOp.apply attempt.plan table).2
  | .deleteUser session userId =>
      ((Dashboard.deleteUser deploy session userId).execute TableOp.apply attempt.plan table).2

/-- The record of the user, as it reads. -/
def Stored (table : Table) (userId : UserId) (user : User) : Prop :=
  ∃ item, table.getItem (userPk userId) = some item ∧ User.modelValidate item = .ok user

/-- An address is found exactly when it cannot be used again, and no two records
have the same address. -/
def Consistent (normalize : String → String) (table : Table) : Prop :=
  (∀ email, (runAlone (findUserByEmail normalize email) table).1 = .ok none ↔
    ∀ cognitoSub displayName userId now message,
      (runAlone (TenancyStore.createUser normalize email cognitoSub displayName userId now)
        table).1 ≠ .error (.emailAlreadyInUse message)) ∧
  ∀ left right leftUser rightUser, Stored table left leftUser → Stored table right rightUser →
    normalize leftUser.email = normalize rightUser.email → left = right

/-! ### Rows -/

/-- An index row is at a rendered address and names a user; a record reads, and
is under its own id. -/
structure WellFormed (normalize : String → String) (table : Table) : Prop where
  index : ∀ pk item, table.getItem pk = some item → familyOf '#' pk = "USEREMAIL".toList →
    ∃ email userId, pk = userEmailPk (normalize email) ∧ item.text "user_id" = .ok userId
  users : ∀ pk item, table.getItem pk = some item → familyOf '#' pk = "USER".toList →
    ∃ user, pk = userPk user.userId ∧ User.modelValidate item = .ok user

/-- Every index row has its record, and no two records have the same address. -/
structure Backed (normalize : String → String) (table : Table) : Prop where
  record : ∀ pk item userId, table.getItem pk = some item → familyOf '#' pk = "USEREMAIL".toList →
    item.text "user_id" = .ok userId → table.getItem (userPk userId) ≠ none
  distinct : ∀ left right leftUser rightUser, Stored table left leftUser →
    Stored table right rightUser → normalize leftUser.email = normalize rightUser.email →
      left = right

section Reading

variable {normalize : String → String} {table : Table}

/-- A lookup of an address finds none without an index row, or with one whose
record is gone. -/
theorem findUserByEmail_none_iff (wellFormed : WellFormed normalize table) (email : String) :
    (runAlone (findUserByEmail normalize email) table).1 = .ok none ↔
      ∀ item userId, table.getItem (userEmailPk (normalize email)) = some item →
        item.text "user_id" = .ok userId → table.getItem (userPk userId) = none := by
  unfold findUserByEmail
  cases index : table.getItem (userEmailPk (normalize email)) with
  | none =>
      simp only [runAlone_bind, runAlone_getItem, index, runAlone_pure]
      exact iff_of_true trivial nofun
  | some item =>
      obtain ⟨-, userId, -, owner⟩ := wellFormed.index _ item index (familyOf_userEmailPk _)
      cases record : table.getItem (userPk userId) with
      | none =>
          simp only [getUser, runAlone_bind, runAlone_tryCatch, runAlone_getItem, index,
            runAlone_parsed, owner, record, runAlone_throw, runAlone_pure, true_iff]
          rintro _ other ⟨⟩ same
          cases owner.symm.trans same
          exact record
      | some row =>
          obtain ⟨user, -, reads⟩ := wellFormed.users _ row record (familyOf_userPk _)
          simp only [getUser, runAlone_bind, runAlone_tryCatch, runAlone_getItem, index,
            runAlone_parsed, owner, record, reads, runAlone_pure]
          refine iff_of_false nofun fun all => ?_
          cases record.symm.trans (all item userId rfl owner)

/-- An address can be used exactly where it has no index row. -/
theorem createUser_free_iff (email : String) :
    (∀ cognitoSub displayName userId now message,
      (runAlone (TenancyStore.createUser normalize email cognitoSub displayName userId now)
        table).1 ≠ .error (.emailAlreadyInUse message)) ↔
      table.getItem (userEmailPk (normalize email)) = none := by
  unfold TenancyStore.createUser
  cases index : table.getItem (userEmailPk (normalize email)) with
  | none =>
      simp only [runAlone_bind, runAlone_putNew_free _ index, Bool.true_eq_false, if_false,
        runAlone_tryCatch, runAlone_putItem, runAlone_pure]
      exact iff_of_true (fun _ _ _ _ _ => nofun) trivial
  | some item =>
      simp only [runAlone_bind, runAlone_putNew_taken _ index, if_true, runAlone_throw]
      refine iff_of_false (fun never => ?_) nofun
      exact never none "" "" 0 _ rfl

theorem consistent_iff (wellFormed : WellFormed normalize table) :
    Consistent normalize table ↔ Backed normalize table := by
  unfold Consistent
  simp only [findUserByEmail_none_iff wellFormed, createUser_free_iff]
  constructor
  · rintro ⟨agree, distinct⟩
    refine ⟨fun pk item userId index family owner gone => ?_, distinct⟩
    obtain ⟨email, -, rfl, -⟩ := wellFormed.index pk item index family
    have free := (agree email).mp fun row other stored named => by
      cases index.symm.trans stored
      cases owner.symm.trans named
      exact gone
    cases index.symm.trans free
  · rintro ⟨record, distinct⟩
    refine ⟨fun email => ⟨fun none => ?_, fun free item userId index => ?_⟩, distinct⟩
    · cases index : table.getItem (userEmailPk (normalize email)) with
      | none => rfl
      | some item =>
          obtain ⟨-, userId, -, owner⟩ := wellFormed.index _ item index (familyOf_userEmailPk _)
          exact absurd (none item userId index owner)
            (record _ item userId index (familyOf_userEmailPk _) owner)
    · cases index.symm.trans free

end Reading

/-! ### Writes -/

section Writes

variable {normalize : String → String} {table : Table}

theorem WellFormed.of_same {after : Table} (wellFormed : WellFormed normalize table)
    (same : ∀ pk, familyOf '#' pk ∈ ["USEREMAIL".toList, "USER".toList] →
      after.getItem pk = table.getItem pk) : WellFormed normalize after := by
  refine ⟨fun pk item stored inside => ?_, fun pk item stored inside => ?_⟩
  · rw [same pk (by simp [inside])] at stored
    exact wellFormed.index pk item stored inside
  · rw [same pk (by simp [inside])] at stored
    exact wellFormed.users pk item stored inside

theorem WellFormed.deleteItem (wellFormed : WellFormed normalize table) (pk : String) :
    WellFormed normalize (table.deleteItem pk) := by
  refine ⟨fun key item stored => ?_, fun key item stored => ?_⟩
  all_goals
    rw [Table.getItem_deleteItem] at stored
    split at stored
    · cases stored
  · exact wellFormed.index key item stored
  · exact wellFormed.users key item stored

theorem WellFormed.putIndex (wellFormed : WellFormed normalize table) (email : String)
    (userId : UserId) (now : Int) :
    WellFormed normalize (table.putItem (userEmailPk (normalize email))
      [("user_id", .text userId), ("created_at", .number now)]) := by
  refine ⟨fun key item stored inside => ?_, fun key item stored inside => ?_⟩
  · rw [Table.getItem_putItem] at stored
    split at stored
    next same =>
      cases stored
      exact ⟨email, userId, same, rfl⟩
    next => exact wellFormed.index key item stored inside
  · rw [Table.getItem_putItem_of_family table _ (by simp [inside])] at stored
    exact wellFormed.users key item stored inside

theorem WellFormed.putUser (wellFormed : WellFormed normalize table) (user : User) :
    WellFormed normalize (table.putItem (userPk user.userId) user.modelDump) := by
  refine ⟨fun key item stored inside => ?_, fun key item stored inside => ?_⟩
  · rw [Table.getItem_putItem_of_family table _ (by simp [inside])] at stored
    exact wellFormed.index key item stored inside
  · rw [Table.getItem_putItem] at stored
    split at stored
    next same =>
      cases stored
      exact ⟨user, same, User.modelValidate_modelDump user⟩
    next => exact wellFormed.users key item stored inside

/-- Operations that keep the rows well formed. -/
def Keeps (normalize : String → String) (op : TableOp) : Prop :=
  ∀ table, WellFormed normalize table → WellFormed normalize (op.apply table).2

theorem keeps_of_writesIn {α : Type} {families : List (List Char)} {program : TableProgram α}
    (writes : WritesIn families program)
    (apart : ∀ family ∈ families, family ∉ ["USEREMAIL".toList, "USER".toList]) :
    program.All TableOp.apply (Keeps normalize) := by
  refine Program.All.mono (fun op within table wellFormed => ?_) writes
  exact wellFormed.of_same fun pk inside =>
    within.getItem_apply (fun member => apart _ member inside) table

theorem keeps_deleteItem (pk : String) :
    (deleteItem pk).All TableOp.apply (Keeps normalize) :=
  Program.All.perform fun _ wellFormed => wellFormed.deleteItem pk

/-- The record that a creation writes. -/
def createdUser (email : String) (cognitoSub : Option String) (displayName : String)
    (userId : UserId) (now : Int) : User :=
  { userId, email, cognitoSub, displayName, createdAt := now, updatedAt := now }

theorem createUser_keeps (email : String) (cognitoSub : Option String) (displayName : String)
    (userId : UserId) (now : Int) :
    (TenancyStore.createUser normalize email cognitoSub displayName userId now).All TableOp.apply
      (Keeps normalize) := by
  have index : Keeps normalize (.putNew (userEmailPk (normalize email))
      [("user_id", .text userId), ("created_at", .number now)]) := by
    intro table wellFormed
    unfold TableOp.apply
    dsimp only
    split
    · exact wellFormed.putIndex email userId now
    · exact wellFormed
  unfold TenancyStore.createUser
  refine Program.All.perform_bind index fun table => ?_
  dsimp only
  split
  · trivial
  have record : Keeps normalize (.putItem (userPk userId) (createdUser email cognitoSub displayName
      userId now).modelDump) :=
    fun _ wellFormed => wellFormed.putUser (createdUser email cognitoSub displayName userId now)
  refine Program.All.bind (Program.All.tryCatch (Program.All.perform record) fun error => ?_)
    fun _ => trivial
  exact Program.All.bind (keeps_deleteItem _) fun _ => trivial

/-- The first part of a deletion: authorize it, find the record, and remove the
memberships and the flag. -/
def detachUser (deploy : Deploy) (session : Option Session) (userId : UserId) :
    TableProgram (Option User) := do
  let principal ← Dashboard.getPrincipal session
  Dashboard.requireUserMgmt deploy principal none
  let lookup : TableProgram (Option User) := do
    let user ← getUser userId
    return some user
  let found ← tryCatch lookup fun
    | .notFound _ => return none
    | error => throw error
  match found with
  | none => return none
  | some user => do
      let memberships ← membershipsForUser userId
      Dashboard.removeMemberships userId memberships
      revokeSysadmin userId
      return some user

theorem deleteUser_eq (deploy : Deploy) (session : Option Session) (userId : UserId) :
    Dashboard.deleteUser deploy session userId = (do
      match ← detachUser deploy session userId with
      | none => return ()
      | some user => do
          suppress (TableProgram.deleteItem (userEmailPk (deploy.normalize user.email)))
          suppress (TableProgram.deleteItem (userPk userId))) := by
  unfold Dashboard.deleteUser detachUser
  simp only [Bind.bind, Program.bind_assoc]
  congr 1
  funext principal
  congr 1
  funext _
  congr 1
  funext found
  cases found with
  | none => rfl
  | some user =>
      unfold Dashboard.removeUser
      simp only [Bind.bind, Program.bind_assoc]
      rfl

theorem detachUser_writesIn (deploy : Deploy) (session : Option Session) (userId : UserId) :
    WritesIn ["USERORG".toList, "ORGUSER".toList, "SYSADMIN".toList]
      (detachUser deploy session userId) := by
  refine Program.All.bind ((Dashboard.getPrincipal_reads _).writesIn _) fun principal => ?_
  refine Program.All.bind ((Dashboard.requireUserMgmt_reads _ _ _).writesIn _) fun _ => ?_
  have lookup : WritesIn ["USERORG".toList, "ORGUSER".toList, "SYSADMIN".toList]
      (do let user ← getUser userId; return some user : TableProgram (Option User)) :=
    Program.All.bind ((getUser_reads _).writesIn _) fun _ => trivial
  refine Program.All.bind (Program.All.tryCatch lookup fun error => ?_) fun found => ?_
  · cases error <;> trivial
  cases found with
  | none => trivial
  | some user =>
      refine Program.All.bind ((membershipsForUser_reads _).writesIn _) fun memberships => ?_
      refine Program.All.bind
        ((Dashboard.removeMemberships_writesIn _ _).weaken (by simp)) fun _ => ?_
      exact Program.All.bind (writesIn_deleteItem (by simp)) fun _ => trivial

theorem deleteUser_keeps (deploy : Deploy) (session : Option Session) (userId : UserId) :
    (Dashboard.deleteUser deploy session userId).All TableOp.apply (Keeps normalize) := by
  rw [deleteUser_eq]
  refine Program.All.bind (keeps_of_writesIn (detachUser_writesIn _ _ _) (by decide))
    fun found => ?_
  cases found with
  | none => trivial
  | some user =>
      refine Program.All.bind (Program.All.tryCatch (keeps_deleteItem _) fun _ => trivial)
        fun _ => ?_
      exact Program.All.tryCatch (keeps_deleteItem _) fun _ => trivial

theorem wellFormed_step {deploy : Deploy} {attempt : Attempt}
    (wellFormed : WellFormed deploy.normalize table) :
    WellFormed deploy.normalize (step deploy table attempt) := by
  have keeps : ∀ (op : TableOp) (state : Table), Keeps deploy.normalize op →
      WellFormed deploy.normalize state → WellFormed deploy.normalize (op.apply state).2 :=
    fun op state keeps => keeps state
  obtain ⟨call, plan⟩ := attempt
  cases call with
  | createUser email cognitoSub displayName userId now =>
      exact Program.All.execute_keeps keeps (createUser_keeps _ _ _ _ _) plan wellFormed
  | deleteUser session userId =>
      exact Program.All.execute_keeps keeps (deleteUser_keeps _ _ _) plan wellFormed

end Writes

/-! ### Which steps keep the index -/

/-- A creation that gets as far as the index row also gets the record written,
at an address no other record has, or the index row removed again. A deletion
that gets as far as the record has removed all its index rows. -/
def Good (deploy : Deploy) (table : Table) (attempt : Attempt) : Prop :=
  match attempt.call with
  | .createUser email cognitoSub displayName userId now =>
      let index := userEmailPk (deploy.normalize email)
      let user := createdUser email cognitoSub displayName userId now
      table.getItem index = none →
        attempt.plan (.putNew index [("user_id", .text userId), ("created_at", .number now)]) =
          .completes →
        match attempt.plan (.putItem (userPk userId) user.modelDump) with
        | .completes => ∀ other stored, Stored table other stored →
            deploy.normalize stored.email = deploy.normalize email → other = userId
        | .raises _ => attempt.plan (.deleteItem index) = .completes ∨
            table.getItem (userPk userId) ≠ none
        | .stops => table.getItem (userPk userId) ≠ none
  | .deleteUser session userId =>
      ∀ user, ((detachUser deploy session userId).execute TableOp.apply attempt.plan table).1 =
          some (.ok (some user)) →
        attempt.plan (.deleteItem (userEmailPk (deploy.normalize user.email))) ≠ .stops →
        attempt.plan (.deleteItem (userPk userId)) = .completes →
        ∀ pk item, table.getItem pk = some item → familyOf '#' pk = "USEREMAIL".toList →
          item.text "user_id" = .ok userId → pk = userEmailPk (deploy.normalize user.email) ∧
            attempt.plan (.deleteItem pk) = .completes

section Steps

variable {normalize : String → String} {table : Table}

theorem Backed.of_same {after : Table} (backed : Backed normalize table)
    (same : ∀ pk, familyOf '#' pk ∈ ["USEREMAIL".toList, "USER".toList] →
      after.getItem pk = table.getItem pk) : Backed normalize after := by
  have stored : ∀ userId user, Stored after userId user → Stored table userId user := by
    rintro userId user ⟨item, present, reads⟩
    rw [same _ (by simp)] at present
    exact ⟨item, present, reads⟩
  refine ⟨fun pk item userId index inside owner => ?_, fun left right leftUser rightUser first second =>
    backed.distinct left right leftUser rightUser (stored _ _ first) (stored _ _ second)⟩
  rw [same pk (by simp [inside])] at index
  rw [same _ (by simp)]
  exact backed.record pk item userId index inside owner

theorem Backed.deleteIndex (backed : Backed normalize table) (email : String) :
    Backed normalize (table.deleteItem (userEmailPk email)) := by
  have users : ∀ userId, (table.deleteItem (userEmailPk email)).getItem (userPk userId) =
      table.getItem (userPk userId) :=
    fun userId => Table.getItem_deleteItem_of_family table (by simp)
  refine ⟨fun pk item userId index inside owner => ?_, fun left right leftUser rightUser first second =>
    ?_⟩
  · rw [Table.getItem_deleteItem] at index
    split at index
    · cases index
    · rw [users]
      exact backed.record pk item userId index inside owner
  · unfold Stored at first second
    rw [users] at first second
    exact backed.distinct left right leftUser rightUser first second

/-- A record can go exactly when no index row names it. -/
theorem Backed.deleteUser_iff (backed : Backed normalize table) (userId : UserId) :
    Backed normalize (table.deleteItem (userPk userId)) ↔
      ∀ pk item, table.getItem pk = some item → familyOf '#' pk = "USEREMAIL".toList →
        item.text "user_id" ≠ .ok userId := by
  have index : ∀ pk, familyOf '#' pk = "USEREMAIL".toList →
      (table.deleteItem (userPk userId)).getItem pk = table.getItem pk := fun pk inside =>
    Table.getItem_deleteItem_of_family table (by simp [inside])
  constructor
  · intro after pk item stored inside owner
    refine after.record pk item userId ((index pk inside).trans stored) inside owner ?_
    exact Table.getItem_deleteItem_self table _
  · intro unnamed
    refine ⟨fun pk item other stored inside owner => ?_,
      fun left right leftUser rightUser first second => ?_⟩
    · rw [index pk inside] at stored
      have different : other ≠ userId := fun same =>
        unnamed pk item stored inside (same ▸ owner)
      rw [Table.getItem_deleteItem_of_ne table (by simpa using different)]
      exact backed.record pk item other stored inside owner
    · have before : ∀ other user, Stored (table.deleteItem (userPk userId)) other user →
          Stored table other user := by
        rintro other user ⟨item, stored, reads⟩
        rw [Table.getItem_deleteItem] at stored
        split at stored
        · cases stored
        · exact ⟨item, stored, reads⟩
      exact backed.distinct left right leftUser rightUser (before _ _ first) (before _ _ second)

/-- A new index row needs its record. -/
theorem Backed.putIndex_iff (backed : Backed normalize table) {email : String} {userId : UserId}
    {now : Int} :
    Backed normalize (table.putItem (userEmailPk email)
      [("user_id", .text userId), ("created_at", .number now)]) ↔
        table.getItem (userPk userId) ≠ none := by
  have users : ∀ other, (table.putItem (userEmailPk email)
      [("user_id", .text userId), ("created_at", .number now)]).getItem (userPk other) =
        table.getItem (userPk other) :=
    fun other => Table.getItem_putItem_of_family table _ (by simp)
  constructor
  · intro after
    have record := after.record (userEmailPk email) _ userId (Table.getItem_putItem_self table _ _)
      (familyOf_userEmailPk email) rfl
    rw [users] at record
    exact record
  · intro present
    refine ⟨fun pk item other stored inside owner => ?_,
      fun left right leftUser rightUser first second => ?_⟩
    · rw [users]
      rw [Table.getItem_putItem] at stored
      split at stored
      · cases stored
        cases owner
        exact present
      · exact backed.record pk item other stored inside owner
    · unfold Stored at first second
      rw [users] at first second
      exact backed.distinct left right leftUser rightUser first second

theorem stored_putUser_iff (user : User) (other : UserId) (read : User) :
    Stored (table.putItem (userPk user.userId) user.modelDump) other read ↔
      other = user.userId ∧ read = user ∨ other ≠ user.userId ∧ Stored table other read := by
  unfold Stored
  rw [Table.getItem_putItem]
  by_cases same : other = user.userId
  · subst same
    simp only [if_true, Option.some.injEq, exists_eq_left', User.modelValidate_modelDump,
      Except.ok.injEq, true_and, ne_eq, not_true_eq_false, false_and, or_false]
    exact eq_comm
  · simp [same]

/-- A new record with its index row needs an address no other record has. -/
theorem Backed.putUser_iff (backed : Backed normalize table) {email : String} {now : Int}
    (user : User) :
    Backed normalize ((table.putItem (userEmailPk email)
      [("user_id", .text user.userId), ("created_at", .number now)]).putItem
        (userPk user.userId) user.modelDump) ↔
      ∀ other stored, Stored table other stored → normalize stored.email = normalize user.email →
        other = user.userId := by
  have storedIndex : ∀ other read, Stored (table.putItem (userEmailPk email)
      [("user_id", .text user.userId), ("created_at", .number now)]) other read ↔
        Stored table other read := by
    intro other read
    unfold Stored
    rw [Table.getItem_putItem_of_family table _ (by simp)]
  constructor
  · intro after other stored present same
    by_contra different
    refine different (after.distinct other user.userId stored user ?_ ?_ same)
    · exact (stored_putUser_iff _ _ _).mpr (Or.inr ⟨different, (storedIndex _ _).mpr present⟩)
    · exact (stored_putUser_iff _ _ _).mpr (Or.inl ⟨rfl, rfl⟩)
  · intro alone
    refine ⟨fun pk item other present inside owner => ?_,
      fun left right leftUser rightUser first second same => ?_⟩
    · rw [Table.getItem_putItem_of_family _ _ (by simp [inside]), Table.getItem_putItem] at present
      rw [Table.getItem_putItem]
      split
      · exact Option.some_ne_none _
      next different =>
        rw [Table.getItem_putItem_of_family table _ (by simp)]
        split at present
        · cases present
          cases owner
          exact absurd rfl different
        · exact backed.record pk item other present inside owner
    · rw [stored_putUser_iff, storedIndex] at first second
      rcases first with ⟨rfl, rfl⟩ | ⟨-, first⟩
      · rcases second with ⟨rfl, rfl⟩ | ⟨-, second⟩
        · rfl
        · exact (alone right rightUser second same.symm).symm
      · rcases second with ⟨rfl, rfl⟩ | ⟨-, second⟩
        · exact alone left leftUser first same
        · exact backed.distinct left right leftUser rightUser first second same

/-- The table a creation leaves. -/
theorem step_createUser (deploy : Deploy) (table : Table) (email : String)
    (cognitoSub : Option String) (displayName : String) (userId : UserId) (now : Int)
    (plan : TableOp → Program.Fate CallError) :
    step deploy table ⟨.createUser email cognitoSub displayName userId now, plan⟩ =
      let index := userEmailPk (deploy.normalize email)
      let row : Item := [("user_id", .text userId), ("created_at", .number now)]
      let record := (createdUser email cognitoSub displayName userId now).modelDump
      if table.getItem index = none ∧ plan (.putNew index row) = .completes then
        match plan (.putItem (userPk userId) record) with
        | .completes => (table.putItem index row).putItem (userPk userId) record
        | .raises _ =>
            if plan (.deleteItem index) = .completes then (table.putItem index row).deleteItem index
            else table.putItem index row
        | .stops => table.putItem index row
      else table := by
  unfold step TenancyStore.createUser createdUser
  simp only [Program.execute_bind, execute_putNew]
  cases first : plan (.putNew (userEmailPk (deploy.normalize email))
    [("user_id", .text userId), ("created_at", .number now)]) with
  | raises error => simp
  | stops => simp
  | completes =>
      by_cases free : table.getItem (userEmailPk (deploy.normalize email)) = none
      · simp only [free, if_true, Bool.true_eq_false, if_false, Program.execute_bind,
          Program.execute_tryCatch, execute_putItem, execute_deleteItem, and_self]
        cases second : plan (.putItem (userPk userId) (User.modelDump
          { userId, email, cognitoSub, displayName, createdAt := now, updatedAt := now })) with
        | completes => rfl
        | stops => rfl
        | raises error =>
            cases third : plan (.deleteItem (userEmailPk (deploy.normalize email))) <;> rfl
      · simp [free, Program.execute_bind]

/-- A creation keeps the index backed exactly when it is good. -/
theorem backed_createUser_iff {deploy : Deploy} (backed : Backed deploy.normalize table)
    (email : String) (cognitoSub : Option String) (displayName : String) (userId : UserId)
    (now : Int) (plan : TableOp → Program.Fate CallError) :
    Backed deploy.normalize
        (step deploy table ⟨.createUser email cognitoSub displayName userId now, plan⟩) ↔
      Good deploy table ⟨.createUser email cognitoSub displayName userId now, plan⟩ := by
  rw [step_createUser]
  unfold Good
  dsimp only
  by_cases writes : table.getItem (userEmailPk (deploy.normalize email)) = none ∧
      plan (.putNew (userEmailPk (deploy.normalize email))
        [("user_id", .text userId), ("created_at", .number now)]) = .completes
  · rw [if_pos writes]
    simp only [writes, forall_const]
    cases plan (.putItem (userPk userId)
      (createdUser email cognitoSub displayName userId now).modelDump) with
    | completes => exact backed.putUser_iff (createdUser email cognitoSub displayName userId now)
    | stops => exact backed.putIndex_iff
    | raises error =>
        dsimp only
        by_cases cleaned : plan (.deleteItem (userEmailPk (deploy.normalize email))) = .completes
        · rw [if_pos cleaned]
          refine iff_of_true (backed.of_same fun pk inside => ?_) (Or.inl cleaned)
          rw [Table.getItem_deleteItem]
          split
          next same => rw [same, writes.1]
          next different => exact Table.getItem_putItem_of_ne table _ different
        · rw [if_neg cleaned, backed.putIndex_iff, or_iff_right cleaned]
  · rw [if_neg writes]
    refine iff_of_true backed fun free completes => absurd ⟨free, completes⟩ writes

theorem execute_suppress_deleteItem (plan : TableOp → Program.Fate CallError) (pk : String)
    (table : Table) :
    (suppress (TableProgram.deleteItem pk)).execute TableOp.apply plan table =
      match plan (.deleteItem pk) with
      | .completes => (some (.ok ()), table.deleteItem pk)
      | .raises _ => (some (.ok ()), table)
      | .stops => (none, table) := by
  unfold suppress
  rw [Program.execute_tryCatch, execute_deleteItem]
  cases plan (.deleteItem pk) <;> rfl

/-- The last part of a deletion: the index row at the address of the record, and
the record. -/
theorem backed_removal_iff (backed : Backed normalize table) (email : String) (userId : UserId)
    (plan : TableOp → Program.Fate CallError) :
    Backed normalize ((do
        suppress (TableProgram.deleteItem (userEmailPk email))
        suppress (TableProgram.deleteItem (userPk userId)) : TableProgram Unit).execute
          TableOp.apply plan table).2 ↔
      (plan (.deleteItem (userEmailPk email)) ≠ .stops →
        plan (.deleteItem (userPk userId)) = .completes →
        ∀ pk item, table.getItem pk = some item → familyOf '#' pk = "USEREMAIL".toList →
          item.text "user_id" = .ok userId →
            pk = userEmailPk email ∧ plan (.deleteItem pk) = .completes) := by
  rw [Program.execute_bind, execute_suppress_deleteItem]
  have backedWithout : Backed normalize (table.deleteItem (userEmailPk email)) :=
    backed.deleteIndex email
  cases index : plan (.deleteItem (userEmailPk email)) with
  | stops => exact iff_of_true backed fun reached => absurd rfl reached
  | completes =>
      dsimp only
      rw [execute_suppress_deleteItem]
      cases record : plan (.deleteItem (userPk userId)) with
      | stops => exact iff_of_true backedWithout fun _ => nofun
      | raises error => exact iff_of_true backedWithout fun _ => nofun
      | completes =>
          dsimp only
          rw [backedWithout.deleteUser_iff]
          constructor
          · intro unnamed _ _ pk item stored inside owner
            by_cases here : pk = userEmailPk email
            · exact ⟨here, here ▸ index⟩
            · refine absurd owner (unnamed pk item ?_ inside)
              rw [Table.getItem_deleteItem_of_ne table here]
              exact stored
          · intro removed pk item stored inside owner
            rw [Table.getItem_deleteItem] at stored
            split at stored
            next => cases stored
            next different =>
              exact different (removed nofun rfl pk item stored inside owner).1
  | raises error =>
      dsimp only
      rw [execute_suppress_deleteItem]
      cases record : plan (.deleteItem (userPk userId)) with
      | stops => exact iff_of_true backed fun _ => nofun
      | raises error => exact iff_of_true backed fun _ => nofun
      | completes =>
          dsimp only
          rw [backed.deleteUser_iff]
          constructor
          · intro unnamed _ _ pk item stored inside owner
            exact absurd owner (unnamed pk item stored inside)
          · intro removed pk item stored inside owner
            obtain ⟨here, completes⟩ := removed nofun rfl pk item stored inside owner
            rw [here, index] at completes
            cases completes

/-- A deletion keeps the index backed exactly when it is good. -/
theorem backed_deleteUser_iff {deploy : Deploy} (backed : Backed deploy.normalize table)
    (session : Option Session) (userId : UserId) (plan : TableOp → Program.Fate CallError) :
    Backed deploy.normalize (step deploy table ⟨.deleteUser session userId, plan⟩) ↔
      Good deploy table ⟨.deleteUser session userId, plan⟩ := by
  unfold step Good
  dsimp only
  rw [deleteUser_eq, Program.execute_bind]
  have rows : ∀ pk, familyOf '#' pk ∈ ["USEREMAIL".toList, "USER".toList] →
      ((detachUser deploy session userId).execute TableOp.apply plan table).2.getItem pk =
        table.getItem pk := by
    intro pk inside
    refine (detachUser_writesIn deploy session userId).getItem_execute (fun within => ?_) plan
    revert within inside
    generalize familyOf '#' pk = family
    revert family
    decide
  generalize (detachUser deploy session userId).execute TableOp.apply plan table = detached at rows
  obtain ⟨outcome, between⟩ := detached
  have backedBetween : Backed deploy.normalize between := backed.of_same rows
  match outcome with
  | none => exact iff_of_true backedBetween nofun
  | some (.error error) => exact iff_of_true backedBetween nofun
  | some (.ok none) => exact iff_of_true backedBetween nofun
  | some (.ok (some user)) =>
      dsimp only at rows ⊢
      rw [backed_removal_iff backedBetween]
      constructor
      · rintro good _ ⟨⟩ reached completes pk item stored inside
        exact good reached completes pk item ((rows pk (by simp [inside])).trans stored) inside
      · intro good reached completes pk item stored inside
        exact good user rfl reached completes pk item
          ((rows pk (by simp [inside])).symm.trans stored) inside

end Steps

/-! ### Runs -/

/-- What a bootstrap leaves is well formed and consistent. -/
theorem wellFormed_completed (normalize : String → String) (draw : Bootstrap.Draw) :
    WellFormed normalize (Bootstrap.completed normalize draw draw) ∧
      Consistent normalize (Bootstrap.completed normalize draw draw) := by
  have apart : ∀ pk, familyOf '#' pk ∈ ["USEREMAIL".toList, "USER".toList] →
      (Bootstrap.completed normalize draw draw).getItem pk =
        (Bootstrap.withUser normalize draw (Bootstrap.withOrg draw Dict.empty)).getItem pk := by
    intro pk inside
    unfold Bootstrap.completed Bootstrap.withSysadmin Bootstrap.withMembership
    rw [Table.getItem_putItem_of_family, Table.getItem_putItem_of_family,
      Table.getItem_putItem_of_family]
    all_goals
      intro same
      rw [same] at inside
      simp at inside
  have org : ∀ pk, familyOf '#' pk ∈ ["USEREMAIL".toList, "USER".toList] →
      (Bootstrap.withOrg draw Dict.empty).getItem pk = Table.getItem Dict.empty pk := by
    intro pk inside
    refine Table.getItem_putItem_of_family _ _ fun same => ?_
    rw [same, familyOf_orgPk] at inside
    revert inside
    decide
  have wellFormedEmpty : WellFormed normalize Dict.empty := ⟨nofun, nofun⟩
  have backedEmpty : Backed normalize Dict.empty :=
    ⟨nofun, fun _ _ _ _ ⟨_, stored, _⟩ => nomatch stored⟩
  have wellFormed : WellFormed normalize (Bootstrap.completed normalize draw draw) :=
    (((wellFormedEmpty.of_same org).putIndex Bootstrap.superwomanEmail draw.userId
      draw.userAt).putUser (Bootstrap.newUser draw)).of_same apart
  refine ⟨wellFormed, (consistent_iff wellFormed).mpr (Backed.of_same ?_ apart)⟩
  refine (Backed.putUser_iff (backedEmpty.of_same org) (Bootstrap.newUser draw)).mpr ?_
  rintro other stored ⟨item, present, -⟩
  rw [org _ (by simp)] at present
  cases present

/-- Addresses stay consistent throughout exactly when every creation and every
deletion is good. -/
theorem always_consistent_iff (deploy : Deploy) {table : Table}
    (wellFormed : WellFormed deploy.normalize table)
    (consistent : Consistent deploy.normalize table) (attempts : List Attempt) :
    Always (step deploy) (Consistent deploy.normalize) table attempts ↔
      EachStep (step deploy) (Good deploy) table attempts := by
  refine always_iff_eachStep_of_kept (step deploy) (fun _ _ wellFormed _ => wellFormed_step wellFormed)
    (fun state attempt wellFormed consistent _ => ?_) wellFormed consistent (eachStep_true _ _ _)
  rw [consistent_iff (wellFormed_step wellFormed)]
  have backed := (consistent_iff wellFormed).mp consistent
  obtain ⟨call, plan⟩ := attempt
  cases call with
  | createUser email cognitoSub displayName userId now =>
      exact backed_createUser_iff backed email cognitoSub displayName userId now plan
  | deleteUser session userId => exact backed_deleteUser_iff backed session userId plan

/-- Every operation completes, but the record of a new user is never written. -/
def stopsAtRecord : TableOp → Program.Fate CallError
  | .putItem _ _ => .stops
  | _ => .completes

/-- After a bootstrap, a user is created, and deleted by superwoman. -/
theorem always_consistent_iff_comesAndGoes :
    let draw : Bootstrap.Draw := ⟨"org", "user", 0, 0, 0, 0⟩
    let attempts : List Attempt := [⟨.createUser "ada@x" none "" "ada" 1, fun _ => .completes⟩,
      ⟨.deleteUser (some ⟨"user"⟩) "ada", fun _ => .completes⟩]
    Always (step { normalize := id }) (Consistent id) (Bootstrap.completed id draw draw) attempts ↔
      EachStep (step { normalize := id }) (Good { normalize := id })
        (Bootstrap.completed id draw draw) attempts :=
  always_consistent_iff { normalize := id } (wellFormed_completed id _).1
    (wellFormed_completed id _).2 _

/-- The process stops between the index row and the record. -/
theorem not_always_consistent_stopsAtRecord :
    ¬ Always (step { normalize := id }) (Consistent id)
      (Bootstrap.completed id ⟨"org", "user", 0, 0, 0, 0⟩ ⟨"org", "user", 0, 0, 0, 0⟩)
      [⟨.createUser "ada@x" none "" "ada" 1, stopsAtRecord⟩] := by
  intro always
  have agree := (always.final.1 "ada@x").mp (by decide +kernel)
  exact agree none "" "ada-2" 2 "email ada@x already in use" (by decide +kernel)

end EmailIndex

end TradingStrands
