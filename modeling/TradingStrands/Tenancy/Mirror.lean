import TradingStrands.Foundation.Runs
import TradingStrands.Tenancy.Store

/-!
Owns the agreement of the two rows of a membership, over runs in which any write
may fail. Granting writes the row of the user and then the row of the
organisation; if the second write fails, the first row is removed. That undoes a
new grant. On a change of role the first write has replaced a row, and removing
it leaves the other row alone.

Ids are what the stores draw, eight hexadecimal digits, so they hold no
separator.
-/

namespace TradingStrands.MembershipMirror

open TradingStrands.Foundation TenancyStore TableProgram

/-! ### Calls -/

inductive Call
  | add (userId orgId : PlainId '#') (role : Role) (now : Int)
  | remove (userId orgId : PlainId '#')

/-- A call, and what happens at each of its writes. -/
structure Attempt where
  call : Call
  plan : TableOp → Program.Fate CallError

def step (table : Table) (attempt : Attempt) : Table :=
  match attempt.call with
  | .add userId orgId role now =>
      ((addMembership userId.text orgId.text role now).execute TableOp.apply attempt.plan table).2
  | .remove userId orgId =>
      ((removeMembership userId.text orgId.text).execute TableOp.apply attempt.plan table).2

namespace Attempt

/-- The second write raises, and the first row is removed again. -/
def SecondPutFails (attempt : Attempt) : Prop :=
  match attempt.call with
  | .add userId orgId role now =>
      let item := membershipItem userId.text orgId.text role now
      attempt.plan (.putItem (userOrgPk userId.text orgId.text) item) = .completes ∧
        (∃ error, attempt.plan (.putItem (orgUserPk orgId.text userId.text) item) = .raises error) ∧
        attempt.plan (.deleteItem (userOrgPk userId.text orgId.text)) = .completes
  | .remove _ _ => False

/-- Every write of the call completes. -/
def Succeeds (attempt : Attempt) : Prop :=
  match attempt.call with
  | .add userId orgId role now =>
      let item := membershipItem userId.text orgId.text role now
      attempt.plan (.putItem (userOrgPk userId.text orgId.text) item) = .completes ∧
        attempt.plan (.putItem (orgUserPk orgId.text userId.text) item) = .completes
  | .remove userId orgId =>
      attempt.plan (.deleteItem (userOrgPk userId.text orgId.text)) = .completes ∧
        attempt.plan (.deleteItem (orgUserPk orgId.text userId.text)) = .completes

/-- No write fails other than the second one of a grant. -/
def NoOtherFailure (attempt : Attempt) : Prop := attempt.Succeeds ∨ attempt.SecondPutFails

/-- A grant whose second write failed left both rows of the pair as they were. -/
def Restores (table : Table) (attempt : Attempt) : Prop :=
  match attempt.call with
  | .add userId orgId _ _ => attempt.SecondPutFails →
      (step table attempt).getItem (userOrgPk userId.text orgId.text) =
          table.getItem (userOrgPk userId.text orgId.text) ∧
        (step table attempt).getItem (orgUserPk orgId.text userId.text) =
          table.getItem (orgUserPk orgId.text userId.text)
  | .remove _ _ => True

/-- A grant whose second write fails is a new one: the pair has no row yet. -/
def Fresh (table : Table) (attempt : Attempt) : Prop :=
  match attempt.call with
  | .add userId orgId _ _ => attempt.SecondPutFails →
      table.getItem (userOrgPk userId.text orgId.text) = none
  | .remove _ _ => True

end Attempt

/-! ### What the two sides say -/

/-- There is a row under the key, and it has the role. -/
def HasRole (table : Table) (pk : String) (role : Role) : Prop :=
  ∃ item, table.getItem pk = some item ∧ readRole item = .ok role

def Mirrored (table : Table) : Prop :=
  ∀ (userId orgId : PlainId '#') (role : Role),
    HasRole table (userOrgPk userId.text orgId.text) role ↔
      HasRole table (orgUserPk orgId.text userId.text) role

/-- A list of memberships has the pair with the role. -/
def Lists (memberships : List Membership) (userId orgId : PlainId '#') (role : Role) : Prop :=
  ∃ membership ∈ memberships,
    membership.userId = userId.text ∧ membership.orgId = orgId.text ∧ membership.role = role

/-- The three readers answer, and say the same of every pair. -/
structure ReadersAgree (table : Table) : Prop where
  answers : ∀ userId orgId : PlainId '#',
    ∃ role, (runAlone (roleOf userId.text orgId.text) table).1 = .ok role
  forUser : ∀ userId : PlainId '#', ∃ memberships,
    (runAlone (membershipsForUser userId.text) table).1 = .ok memberships ∧
      ∀ (orgId : PlainId '#') (role : Role), Lists memberships userId orgId role ↔
        (runAlone (roleOf userId.text orgId.text) table).1 = .ok (some role)
  forOrg : ∀ orgId : PlainId '#', ∃ memberships,
    (runAlone (membershipsForOrg orgId.text) table).1 = .ok memberships ∧
      ∀ (userId : PlainId '#') (role : Role), Lists memberships userId orgId role ↔
        (runAlone (roleOf userId.text orgId.text) table).1 = .ok (some role)

/-- The rows of both families are the ones a grant writes. -/
structure Formed (table : Table) : Prop where
  ofUser : ∀ pk item, table.getItem pk = some item → familyOf '#' pk = "USERORG".toList →
    ∃ (userId orgId : PlainId '#') (role : Role) (now : Int),
      pk = userOrgPk userId.text orgId.text ∧
        item = membershipItem userId.text orgId.text role now
  ofOrg : ∀ pk item, table.getItem pk = some item → familyOf '#' pk = "ORGUSER".toList →
    ∃ (userId orgId : PlainId '#') (role : Role) (now : Int),
      pk = orgUserPk orgId.text userId.text ∧
        item = membershipItem userId.text orgId.text role now

theorem formed_empty : Formed Dict.empty := ⟨nofun, nofun⟩

theorem mirrored_empty : Mirrored Dict.empty :=
  fun _ _ _ => iff_of_false (fun ⟨_, stored, _⟩ => nomatch stored)
    fun ⟨_, stored, _⟩ => nomatch stored

section Reading

variable {table : Table} {userId orgId : PlainId '#'}

@[simp] theorem toMembership_membershipItem (userId : UserId) (orgId : OrgId) (role : Role)
    (now : Int) : toMembership (membershipItem userId orgId role now) =
      .ok { userId, orgId, role, createdAt := now } := by
  cases role <;> rfl

/-- The role a well-formed row has is the one it was written with. -/
theorem hasRole_iff {pk : String} {userId : UserId} {orgId : OrgId} {role : Role} {now : Int}
    (stored : table.getItem pk = some (membershipItem userId orgId role now)) (other : Role) :
    HasRole table pk other ↔ other = role := by
  unfold HasRole
  rw [stored]
  simp only [Option.some.injEq, exists_eq_left', readRole_membershipItem, Except.ok.injEq]
  exact eq_comm

theorem roleOf_iff (role : Role) :
    (runAlone (roleOf userId.text orgId.text) table).1 = .ok (some role) ↔
      HasRole table (userOrgPk userId.text orgId.text) role := by
  unfold roleOf HasRole
  rw [runAlone_bind, runAlone_getItem]
  cases table.getItem (userOrgPk userId.text orgId.text) with
  | none => simp
  | some item =>
      simp only [runAlone_bind, runAlone_parsed, Option.some.injEq, exists_eq_left']
      cases readRole item <;> simp

/-- A reader of one side. Its scan finds the rows of its owner, one a counterpart:
they can be read, and list a role exactly where the row has it. -/
theorem side_answers {lead : String} {pkOf : PlainId '#' → String}
    {userOf orgOf : PlainId '#' → PlainId '#'}
    (rows : ∀ row ∈ table.scanPrefix lead, ∃ (other : PlainId '#') (role : Role) (now : Int),
      row = (pkOf other, membershipItem (userOf other).text (orgOf other).text role now))
    (begins : ∀ other, beginsWith (pkOf other) lead = true)
    (keysApart : ∀ left right, pkOf left = pkOf right → left = right)
    (idsApart : ∀ left right, userOf left = userOf right → orgOf left = orgOf right →
      left = right) :
    ∃ memberships, (table.scanPrefix lead).mapM (fun row => toMembership row.2) = .ok memberships ∧
      ∀ other role, Lists memberships (userOf other) (orgOf other) role ↔
        HasRole table (pkOf other) role := by
  have readable : ∀ row ∈ table.scanPrefix lead, ∃ membership,
      toMembership row.2 = .ok membership := by
    intro row member
    obtain ⟨other, role, now, rfl⟩ := rows row member
    exact ⟨_, toMembership_membershipItem _ _ _ _⟩
  obtain ⟨memberships, read⟩ := mapM_isOk_iff.mpr readable
  refine ⟨memberships, read, fun other role => ⟨fun listed => ?_, fun stored => ?_⟩⟩
  · obtain ⟨membership, member, sameUser, sameOrg, rfl⟩ := listed
    obtain ⟨row, inside, reads⟩ := exists_of_mapM_ok read member
    obtain ⟨counterpart, held, now, rfl⟩ := rows row inside
    rw [toMembership_membershipItem] at reads
    cases reads
    cases idsApart _ _ (PlainId.text_inj.mp sameUser) (PlainId.text_inj.mp sameOrg)
    exact (hasRole_iff (Table.mem_scanPrefix_iff.mp inside).1 _).mpr rfl
  · obtain ⟨item, stored, reads⟩ := stored
    have inside : (pkOf other, item) ∈ table.scanPrefix lead :=
      Table.mem_scanPrefix_iff.mpr ⟨stored, begins other⟩
    obtain ⟨counterpart, held, now, same⟩ := rows _ inside
    obtain ⟨keys, rfl⟩ := Prod.ext_iff.mp same
    cases keysApart _ _ keys
    dsimp only at inside reads
    rw [readRole_membershipItem] at reads
    cases reads
    obtain ⟨membership, member, read⟩ := mapM_ok_mem read inside
    rw [toMembership_membershipItem] at read
    cases read
    exact ⟨_, member, rfl, rfl, rfl⟩

theorem membershipsForUser_answers (formed : Formed table) (userId : PlainId '#') :
    ∃ memberships, (runAlone (membershipsForUser userId.text) table).1 = .ok memberships ∧
      ∀ orgId role, Lists memberships userId orgId role ↔
        HasRole table (userOrgPk userId.text orgId.text) role := by
  refine @side_answers table (userOrgPrefix userId.text) (fun orgId => userOrgPk userId.text orgId.text)
    (fun _ => userId) id (fun row member => ?_) (fun _ => (userOrgPk_begins_iff _).mpr rfl)
    (fun _ _ same => (userOrgPk_inj.mp same).2) fun _ _ _ same => same
  obtain ⟨stored, begins⟩ := Table.mem_scanPrefix_iff.mp member
  have family : familyOf '#' row.1 = "USERORG".toList :=
    familyOf_of_beginsWith (by decide) (by decide) begins
  obtain ⟨otherUser, orgId, role, now, same, written⟩ := formed.ofUser _ _ stored family
  rw [same] at begins
  cases (userOrgPk_begins_iff orgId.text).mp begins
  exact ⟨orgId, role, now, Prod.ext same written⟩

theorem membershipsForOrg_answers (formed : Formed table) (orgId : PlainId '#') :
    ∃ memberships, (runAlone (membershipsForOrg orgId.text) table).1 = .ok memberships ∧
      ∀ userId role, Lists memberships userId orgId role ↔
        HasRole table (orgUserPk orgId.text userId.text) role := by
  refine @side_answers table (orgUserPrefix orgId.text) (fun userId => orgUserPk orgId.text userId.text)
    id (fun _ => orgId) (fun row member => ?_) (fun _ => (orgUserPk_begins_iff _).mpr rfl)
    (fun _ _ same => (orgUserPk_inj.mp same).2) fun _ _ same _ => same
  obtain ⟨stored, begins⟩ := Table.mem_scanPrefix_iff.mp member
  have family : familyOf '#' row.1 = "ORGUSER".toList :=
    familyOf_of_beginsWith (by decide) (by decide) begins
  obtain ⟨userId, otherOrg, role, now, same, written⟩ := formed.ofOrg _ _ stored family
  rw [same] at begins
  cases (orgUserPk_begins_iff userId.text).mp begins
  exact ⟨userId, role, now, Prod.ext same written⟩

theorem roleOf_answers (formed : Formed table) (userId orgId : PlainId '#') :
    ∃ role, (runAlone (roleOf userId.text orgId.text) table).1 = .ok role := by
  unfold roleOf
  rw [runAlone_bind, runAlone_getItem]
  cases stored : table.getItem (userOrgPk userId.text orgId.text) with
  | none => exact ⟨none, rfl⟩
  | some item =>
      obtain ⟨_, _, role, _, -, rfl⟩ := formed.ofUser _ _ stored (familyOf_userOrgPk _ _)
      simp only [runAlone_bind, runAlone_parsed, readRole_membershipItem, runAlone_pure]
      exact ⟨some role, rfl⟩

/-- Where the two sides mirror each other the readers agree. -/
theorem readersAgree (formed : Formed table) (mirrored : Mirrored table) : ReadersAgree table := by
  refine ⟨roleOf_answers formed, fun userId => ?_, fun orgId => ?_⟩
  · obtain ⟨memberships, read, lists⟩ := membershipsForUser_answers formed userId
    exact ⟨memberships, read, fun orgId role => by rw [lists, roleOf_iff]⟩
  · obtain ⟨memberships, read, lists⟩ := membershipsForOrg_answers formed orgId
    exact ⟨memberships, read, fun userId role => by rw [lists, roleOf_iff, mirrored]⟩

end Reading

/-! ### Writes -/

section Writes

variable {table : Table}

theorem Formed.putUserRow (formed : Formed table) (userId orgId : PlainId '#') (role : Role)
    (now : Int) : Formed (table.putItem (userOrgPk userId.text orgId.text)
      (membershipItem userId.text orgId.text role now)) := by
  refine ⟨fun pk item stored family => ?_, fun pk item stored family => ?_⟩
  · rw [Table.getItem_putItem] at stored
    split at stored
    next same =>
      cases stored
      exact ⟨userId, orgId, role, now, same, rfl⟩
    next => exact formed.ofUser pk item stored family
  · rw [Table.getItem_putItem_of_family table _ (by simp [family])] at stored
    exact formed.ofOrg pk item stored family

theorem Formed.putOrgRow (formed : Formed table) (userId orgId : PlainId '#') (role : Role)
    (now : Int) : Formed (table.putItem (orgUserPk orgId.text userId.text)
      (membershipItem userId.text orgId.text role now)) := by
  refine ⟨fun pk item stored family => ?_, fun pk item stored family => ?_⟩
  · rw [Table.getItem_putItem_of_family table _ (by simp [family])] at stored
    exact formed.ofUser pk item stored family
  · rw [Table.getItem_putItem] at stored
    split at stored
    next same =>
      cases stored
      exact ⟨userId, orgId, role, now, same, rfl⟩
    next => exact formed.ofOrg pk item stored family

theorem Formed.deleteItem (formed : Formed table) (pk : String) :
    Formed (table.deleteItem pk) := by
  refine ⟨fun key item stored => ?_, fun key item stored => ?_⟩
  all_goals
    rw [Table.getItem_deleteItem] at stored
    split at stored
    · cases stored
  · exact formed.ofUser key item stored
  · exact formed.ofOrg key item stored

/-- Operations that keep the rows formed. -/
def KeepsFormed (op : TableOp) : Prop := ∀ table, Formed table → Formed (op.apply table).2

theorem keepsFormed_deleteItem (pk : String) :
    (deleteItem pk).All TableOp.apply KeepsFormed :=
  Program.All.perform fun _ formed => formed.deleteItem pk

theorem addMembership_keepsFormed (userId orgId : PlainId '#') (role : Role) (now : Int) :
    (addMembership userId.text orgId.text role now).All TableOp.apply KeepsFormed := by
  have ofUser : KeepsFormed (.putItem (userOrgPk userId.text orgId.text)
      (membershipItem userId.text orgId.text role now)) :=
    fun _ formed => formed.putUserRow userId orgId role now
  have ofOrg : KeepsFormed (.putItem (orgUserPk orgId.text userId.text)
      (membershipItem userId.text orgId.text role now)) :=
    fun _ formed => formed.putOrgRow userId orgId role now
  refine Program.All.bind (Program.All.perform ofUser) fun _ => ?_
  refine Program.All.bind (Program.All.tryCatch (Program.All.perform ofOrg) fun error => ?_)
    fun _ => trivial
  exact Program.All.bind (keepsFormed_deleteItem _) fun _ => trivial

theorem formed_step (formed : Formed table) (attempt : Attempt) : Formed (step table attempt) := by
  have keeps : ∀ (op : TableOp) (state : Table), KeepsFormed op → Formed state →
      Formed (op.apply state).2 := fun op state keeps => keeps state
  obtain ⟨call, plan⟩ := attempt
  cases call with
  | add userId orgId role now =>
      exact Program.All.execute_keeps keeps (addMembership_keepsFormed _ _ _ _) plan formed
  | remove userId orgId =>
      have removes : (removeMembership userId.text orgId.text).All TableOp.apply KeepsFormed :=
        Program.All.bind (keepsFormed_deleteItem _) fun _ => keepsFormed_deleteItem _
      exact Program.All.execute_keeps keeps removes plan formed

/-! ### What a step does to the two rows -/

variable {userId orgId : PlainId '#'} {role : Role} {now : Int}
  {plan : TableOp → Program.Fate CallError}

/-- A grant whose second write fails leaves the table without the first row. -/
theorem getItem_step_of_secondPutFails
    (fails : (Attempt.mk (.add userId orgId role now) plan).SecondPutFails) (pk : String) :
    (step table ⟨.add userId orgId role now, plan⟩).getItem pk =
      if pk = userOrgPk userId.text orgId.text then none else table.getItem pk := by
  obtain ⟨first, ⟨error, second⟩, removal⟩ := fails
  dsimp only at first second removal
  unfold step addMembership
  simp only [Program.execute_bind, Program.execute_tryCatch, execute_putItem, execute_deleteItem,
    first, second, removal, Program.execute_throw]
  rw [Table.getItem_deleteItem]
  split
  next => rfl
  next different => exact Table.getItem_putItem_of_ne table _ different

theorem getItem_step_of_granted
    (succeeds : (Attempt.mk (.add userId orgId role now) plan).Succeeds) (pk : String) :
    (step table ⟨.add userId orgId role now, plan⟩).getItem pk =
      if pk = userOrgPk userId.text orgId.text ∨ pk = orgUserPk orgId.text userId.text then
        some (membershipItem userId.text orgId.text role now)
      else table.getItem pk := by
  obtain ⟨first, second⟩ := succeeds
  dsimp only at first second
  unfold step addMembership
  simp only [Program.execute_bind, Program.execute_tryCatch, execute_putItem, first, second,
    Program.execute_pure]
  rw [Table.getItem_putItem, Table.getItem_putItem]
  by_cases ofOrg : pk = orgUserPk orgId.text userId.text
  · rw [if_pos ofOrg, if_pos (Or.inr ofOrg)]
  · rw [if_neg ofOrg]
    exact if_congr (or_iff_left ofOrg).symm rfl rfl

theorem getItem_step_of_removed
    (succeeds : (Attempt.mk (.remove userId orgId) plan).Succeeds) (pk : String) :
    (step table ⟨.remove userId orgId, plan⟩).getItem pk =
      if pk = userOrgPk userId.text orgId.text ∨ pk = orgUserPk orgId.text userId.text then none
      else table.getItem pk := by
  obtain ⟨first, second⟩ := succeeds
  dsimp only at first second
  unfold step removeMembership
  simp only [Program.execute_bind, execute_deleteItem, first, second]
  rw [Table.getItem_deleteItem, Table.getItem_deleteItem]
  by_cases ofOrg : pk = orgUserPk orgId.text userId.text
  · rw [if_pos ofOrg, if_pos (Or.inr ofOrg)]
  · rw [if_neg ofOrg]
    exact if_congr (or_iff_left ofOrg).symm rfl rfl

/-- Tables in which the rows of one pair are the same item, and those of every
other pair are those of a mirrored table, are mirrored. -/
theorem Mirrored.of_pair (mirrored : Mirrored table) {after : Table} {item : Option Item}
    (rows : ∀ pk, after.getItem pk =
      if pk = userOrgPk userId.text orgId.text ∨ pk = orgUserPk orgId.text userId.text then item
      else table.getItem pk) : Mirrored after := by
  intro otherUser otherOrg held
  have keys : userOrgPk otherUser.text otherOrg.text = userOrgPk userId.text orgId.text ↔
      orgUserPk otherOrg.text otherUser.text = orgUserPk orgId.text userId.text := by
    rw [userOrgPk_inj, orgUserPk_inj, and_comm]
  have apart : ∀ (left right : UserId) (first second : OrgId),
      userOrgPk left first ≠ orgUserPk second right := by
    intro left right first second
    exact @ne_of_family '#' _ _ (by simp)
  unfold HasRole
  rw [rows, rows]
  simp only [apart, (apart _ _ _ _).symm, or_false, false_or, keys]
  split
  · exact Iff.rfl
  · exact mirrored otherUser otherOrg held

/-- A grant whose second write fails restores both rows exactly if it is a new one. -/
theorem restores_iff_fresh (table : Table) (attempt : Attempt) :
    attempt.Restores table ↔ attempt.Fresh table := by
  obtain ⟨call, plan⟩ := attempt
  cases call with
  | remove userId orgId => exact Iff.rfl
  | add userId orgId role now =>
      refine imp_congr_right fun fails => ?_
      have apart : orgUserPk orgId.text userId.text ≠ userOrgPk userId.text orgId.text :=
        @ne_of_family '#' _ _ (by simp)
      rw [getItem_step_of_secondPutFails fails, getItem_step_of_secondPutFails fails, if_pos rfl,
        if_neg apart, and_iff_left rfl]
      exact eq_comm

/-- From a mirrored table a call leads to a mirrored one exactly if it is not a
change of role whose second write fails. -/
theorem mirrored_step_iff (formed : Formed table) (mirrored : Mirrored table) {attempt : Attempt}
    (contained : attempt.NoOtherFailure) :
    Mirrored (step table attempt) ↔ attempt.Fresh table := by
  obtain ⟨call, plan⟩ := attempt
  cases call with
  | remove userId orgId =>
      have succeeds := contained.resolve_right id
      exact iff_of_true (mirrored.of_pair (getItem_step_of_removed succeeds)) trivial
  | add userId orgId role now =>
      rcases contained with succeeds | fails
      · refine iff_of_true (mirrored.of_pair (getItem_step_of_granted succeeds)) fun fails => ?_
        obtain ⟨error, second⟩ := fails.2.1
        cases succeeds.2.symm.trans second
      · have rows := @getItem_step_of_secondPutFails table _ _ _ _ _ fails
        constructor
        · intro after _
          cases stored : table.getItem (userOrgPk userId.text orgId.text) with
          | none => rfl
          | some item =>
              -- the other row still has the role that the lost row had
              obtain ⟨_, _, held, at_, same, rfl⟩ :=
                formed.ofUser _ _ stored (familyOf_userOrgPk _ _)
              have kept := (mirrored userId orgId held).mp ((hasRole_iff stored held).mpr rfl)
              have apart : orgUserPk orgId.text userId.text ≠ userOrgPk userId.text orgId.text :=
                @ne_of_family '#' _ _ (by simp)
              have untouched := rows (orgUserPk orgId.text userId.text)
              rw [if_neg apart] at untouched
              unfold HasRole at kept
              rw [← untouched] at kept
              obtain ⟨row, lost, -⟩ := (after userId orgId held).mpr kept
              rw [rows, if_pos rfl] at lost
              cases lost
        · intro fresh
          have same : ∀ pk, (step table ⟨.add userId orgId role now, plan⟩).getItem pk =
              table.getItem pk := by
            intro pk
            rw [rows]
            split
            next here => rw [here, fresh fails]
            next => rfl
          intro otherUser otherOrg held
          unfold HasRole
          rw [same, same]
          exact mirrored otherUser otherOrg held

end Writes

/-! ### Runs -/

/-- Failed grants restore both rows, and the two sides and the three readers agree
throughout, exactly where every grant whose second write fails is a new one. -/
theorem restores_and_mirrors_iff {table : Table} (formed : Formed table)
    (mirrored : Mirrored table) (attempts : List Attempt) :
    (EachStep step Attempt.Restores table attempts ↔ EachStep step Attempt.Fresh table attempts) ∧
      (EachStep step (fun _ attempt => attempt.NoOtherFailure) table attempts →
        (Always step (fun state => Mirrored state ∧ ReadersAgree state) table attempts ↔
          EachStep step Attempt.Fresh table attempts)) := by
  constructor
  · exact ⟨EachStep.mono step fun state attempt => (restores_iff_fresh state attempt).mp,
      EachStep.mono step fun state attempt => (restores_iff_fresh state attempt).mpr⟩
  · intro contained
    have kept : ∀ (state : Table) (attempt : Attempt), Formed state → attempt.NoOtherFailure →
        Formed (step state attempt) := fun _ attempt formed _ => formed_step formed attempt
    refine always_iff_eachStep_of_kept step kept (fun state attempt formed both contained => ?_)
      formed ⟨mirrored, readersAgree formed mirrored⟩ contained
    rw [← mirrored_step_iff formed both.1 contained]
    exact and_iff_left_of_imp (readersAgree (formed_step formed attempt))

/-- The second write of any grant of the operator role fails. -/
def refusesOperator : TableOp → Program.Fate CallError
  | .putItem pk item =>
      if familyOf '#' pk = "ORGUSER".toList ∧ item.attr? "role" = some (.text "operator") then
        .raises (.service "write refused")
      else .completes
  | _ => .completes

/-- A viewer is granted and removed, and the grant of an operator fails. -/
theorem restores_and_mirrors_iff_viewer :
    let ada : PlainId '#' := ⟨"ada", by decide⟩
    let desk : PlainId '#' := ⟨"desk", by decide⟩
    let attempts : List Attempt := [⟨.add ada desk .viewer 1, refusesOperator⟩,
      ⟨.remove ada desk, refusesOperator⟩, ⟨.add ada desk .operator 2, refusesOperator⟩]
    (EachStep step Attempt.Restores Dict.empty attempts ↔
        EachStep step Attempt.Fresh Dict.empty attempts) ∧
      (EachStep step (fun _ attempt => attempt.NoOtherFailure) Dict.empty attempts →
        (Always step (fun state => Mirrored state ∧ ReadersAgree state) Dict.empty attempts ↔
          EachStep step Attempt.Fresh Dict.empty attempts)) :=
  restores_and_mirrors_iff formed_empty mirrored_empty _

/-- A viewer is to become an operator, and the second write fails: the row of the
user is lost, and that of the organisation still says viewer. -/
theorem not_restores_roleChange :
    let ada : PlainId '#' := ⟨"ada", by decide⟩
    let desk : PlainId '#' := ⟨"desk", by decide⟩
    let attempts : List Attempt := [⟨.add ada desk .viewer 1, refusesOperator⟩,
      ⟨.add ada desk .operator 2, refusesOperator⟩]
    EachStep step (fun _ attempt => attempt.NoOtherFailure) Dict.empty attempts ∧
      ¬ EachStep step Attempt.Restores Dict.empty attempts ∧
      ¬ Mirrored (run step Dict.empty attempts) := by
  intro ada desk attempts
  have granted : (Attempt.mk (.add ada desk .viewer 1) refusesOperator).Succeeds :=
    ⟨by decide +kernel, by decide +kernel⟩
  have fails : (Attempt.mk (.add ada desk .operator 2) refusesOperator).SecondPutFails :=
    ⟨by decide +kernel, ⟨.service "write refused", by decide +kernel⟩, by decide +kernel⟩
  refine ⟨⟨Or.inl granted, Or.inr fails, trivial⟩, fun restores => ?_, fun mirrored => ?_⟩
  · have kept := (restores.2.1 fails).1
    revert kept
    decide +kernel
  · have viewer : HasRole (run step Dict.empty attempts) (orgUserPk "desk" "ada") .viewer :=
      ⟨membershipItem "ada" "desk" .viewer 1, by decide +kernel, rfl⟩
    obtain ⟨item, stored, -⟩ := (mirrored ada desk .viewer).mpr viewer
    have lost : (run step Dict.empty attempts).getItem (userOrgPk "ada" "desk") = none := by
      decide +kernel
    cases lost.symm.trans stored

end TradingStrands.MembershipMirror
