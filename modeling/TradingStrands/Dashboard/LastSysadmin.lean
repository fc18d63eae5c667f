import TradingStrands.Bootstrap.Recovery
import TradingStrands.Dashboard.Admin

/-!
Owns the last sysadmin: whether some user with a record holds the flag, in every
state that administration requests reach when their operations interleave. Two
requests remove a record or a flag. A revocation counts the other holders first
and a deletion does not, and nothing protects a count from what comes between it
and the write.
-/

namespace TradingStrands

open TradingStrands.Foundation TenancyStore TableProgram

namespace LastSysadmin

/-- A user who has a record and holds the flag. -/
def Standing (table : Table) (userId : UserId) : Prop :=
  table.getItem (userPk userId) ≠ none ∧ table.getItem (sysadminPk userId) ≠ none

/-- The platform has a sysadmin. -/
def Kept (pool : AdminPool) : Prop := ∃ userId, Standing pool.state userId

/-- The operation of the request removes the record or the flag of the user. -/
def Removes : AdminRequest → TableOp → UserId → Prop
  | .deleteUser _ target, op, userId =>
      target = userId ∧ (op = .deleteItem (sysadminPk userId) ∨ op = .deleteItem (userPk userId))
  | .updateSysadmin _ target false _, op, userId =>
      target = userId ∧ op = .deleteItem (sysadminPk userId)
  | _, _, _ => False

/-- A deletion of a user, or a revocation, does not remove the last one. -/
def Careful (pool : AdminPool) (event : PoolEvent CallError AdminRequest) : Prop :=
  ∀ request op userId, Pool.next? pool event = some (request, op, none) →
    Removes request op userId → Standing pool.state userId →
      ∃ other, other ≠ userId ∧ Standing pool.state other

/-! ### What a request can remove -/

/-- A record or a flag goes only where the request removes it. -/
def MayIssue (request : AdminRequest) (op : TableOp) : Prop :=
  ∀ pk, op = .deleteItem pk → familyOf '#' pk ∈ ["USER".toList, "SYSADMIN".toList] →
    ∃ userId, Removes request op userId

section Bounds

variable {request : AdminRequest}

theorem all_of_writesIn {α : Type} {families : List (List Char)} {program : TableProgram α}
    (writes : WritesIn families program)
    (apart : ∀ family ∈ families, family ∉ ["USER".toList, "SYSADMIN".toList]) :
    program.All TableOp.apply (MayIssue request) := by
  refine Program.All.mono (fun op within pk deletes inside => ?_) writes
  subst deletes
  exact absurd inside (apart _ (within pk rfl))

theorem all_of_reads {α : Type} {program : TableProgram α} (reads : ReadsOnly program) :
    program.All TableOp.apply (MayIssue request) :=
  all_of_writesIn reads nofun

theorem all_putItem (pk : String) (item : Item) :
    (putItem pk item).All TableOp.apply (MayIssue request) :=
  Program.All.perform nofun

theorem createUser_all (normalize : String → String) (email : String) (sub : Option String)
    (name : String) (userId : UserId) (now : Int) :
    (TenancyStore.createUser normalize email sub name userId now).All TableOp.apply
      (MayIssue request) := by
  unfold TenancyStore.createUser
  refine Program.All.perform_bind nofun fun table => ?_
  dsimp only
  split
  · trivial
  refine Program.All.bind (Program.All.tryCatch (all_putItem _ _) fun error => ?_) fun _ => trivial
  have cleanup : WritesIn ["USEREMAIL".toList] (deleteItem (userEmailPk (normalize email))) :=
    writesIn_deleteItem (by simp)
  exact Program.All.bind (all_of_writesIn cleanup (by decide)) fun _ => trivial

theorem addMembership_all (userId : UserId) (orgId : OrgId) (role : Role) (now : Int) :
    (addMembership userId orgId role now).All TableOp.apply (MayIssue request) :=
  all_of_writesIn (addMembership_writesIn userId orgId role now) (by decide)

theorem bootstrap_all (normalize : String → String) (draw : Bootstrap.Draw) :
    (Bootstrap.bootstrap normalize draw).All TableOp.apply (MayIssue request) := by
  rw [Bootstrap.bootstrap_eq]
  refine Program.All.bind
    (all_of_writesIn (Bootstrap.ensureSystemOrg_writesIn draw) (by decide)) fun org => ?_
  refine Program.All.bind ?_ fun user => ?_
  · refine Program.All.bind (all_of_reads (findUserByEmail_reads _ _)) fun found => ?_
    cases found with
    | some existing => trivial
    | none => exact Program.All.bind (createUser_all _ _ _ _ _ _) fun _ => trivial
  · refine Program.All.bind
      (all_of_writesIn (Bootstrap.ensureMembership_writesIn _ _ _) (by decide)) fun _ => ?_
    refine Program.All.bind ?_ fun _ => Program.All.bind
      (all_of_writesIn Bootstrap.deleteLegacyStrategies_writesIn (by decide)) fun _ => trivial
    unfold Bootstrap.ensureSysadmin
    split
    · trivial
    · refine Program.All.bind (all_of_reads (isSysadmin_reads _)) fun already => ?_
      cases already with
      | true => trivial
      | false => exact Program.All.bind (all_putItem _ _) fun _ => trivial

theorem createUser_endpoint_all (deploy : Deploy) (session : Option Session)
    (body : Dashboard.UserCreate) (cognito : Dashboard.CognitoAnswer) (draw : Dashboard.UserDraw) :
    (Dashboard.createUser deploy session body cognito draw).All TableOp.apply
      (MayIssue request) := by
  unfold Dashboard.createUser
  refine Program.All.bind (all_of_reads (Dashboard.getPrincipal_reads _)) fun principal => ?_
  refine Program.All.bind (all_of_reads (Dashboard.requireUserMgmt_reads _ _ _)) fun _ => ?_
  refine Program.All.bind (all_of_reads (Dashboard.checkRole_reads _)) fun role => ?_
  dsimp only
  split
  · trivial
  refine Program.All.bind (all_of_reads ((getOrg_reads _).orNotFound _)) fun _ => ?_
  refine Program.All.bind (all_of_reads (findUserByEmail_reads _ _)) fun existing => ?_
  split
  · trivial
  cases cognito with
  | usernameExists => trivial
  | failed message => trivial
  | created sub =>
      refine Program.All.tryCatch ?_ fun error => trivial
      refine Program.All.bind (createUser_all _ _ _ _ _ _) fun user => ?_
      exact Program.All.bind (addMembership_all _ _ _ _) fun _ => trivial

theorem updateUserRole_all (deploy : Deploy) (session : Option Session) (userId : UserId)
    (role : String) (orgId : OrgId) (now : Int) :
    (Dashboard.updateUserRole deploy session userId role orgId now).All TableOp.apply
      (MayIssue request) := by
  refine Program.All.bind (all_of_reads (Dashboard.getPrincipal_reads _)) fun principal => ?_
  refine Program.All.bind (all_of_reads (Dashboard.requireUserMgmt_reads _ _ _)) fun _ => ?_
  refine Program.All.bind (all_of_reads (Dashboard.checkRole_reads _)) fun role => ?_
  refine Program.All.bind (all_of_reads ((getUser_reads _).orNotFound _)) fun _ => ?_
  refine Program.All.bind (all_of_reads ((getOrg_reads _).orNotFound _)) fun _ => ?_
  exact addMembership_all _ _ _ _

theorem createOrg_all (deploy : Deploy) (session : Option Session) (name : String) (orgId : OrgId)
    (now : Int) :
    (Dashboard.createOrg deploy session name orgId now).All TableOp.apply (MayIssue request) := by
  refine Program.All.bind (all_of_reads (Dashboard.getPrincipal_reads _)) fun principal => ?_
  refine Program.All.bind (all_of_reads (Dashboard.require_reads _ _ _ _)) fun _ => ?_
  exact all_of_writesIn (createOrg_writesIn _ _ _ _) (by decide)

theorem updateOrg_all (deploy : Deploy) (session : Option Session) (orgId : OrgId)
    (body : Dashboard.OrgUpdate) (now : Int) :
    (Dashboard.updateOrg deploy session orgId body now).All TableOp.apply (MayIssue request) := by
  refine Program.All.bind (all_of_reads (Dashboard.getPrincipal_reads _)) fun principal => ?_
  refine Program.All.bind (all_of_reads (Dashboard.require_reads _ _ _ _)) fun _ => ?_
  refine Program.All.bind (Program.All.tryCatch (Program.All.perform nofun) fun _ => trivial)
    fun updated => ?_
  cases updated <;> trivial

theorem deleteOrg_all (deploy : Deploy) (session : Option Session) (orgId : OrgId) :
    (Dashboard.deleteOrg deploy session orgId).All TableOp.apply (MayIssue request) := by
  refine Program.All.bind (all_of_reads (Dashboard.getPrincipal_reads _)) fun principal => ?_
  refine Program.All.bind (all_of_reads (Dashboard.require_reads _ _ _ _)) fun _ => ?_
  have row : WritesIn ["ORG".toList] (deleteItem (orgPk orgId)) := writesIn_deleteItem (by simp)
  exact all_of_writesIn row (by decide)

theorem removeUser_all (deploy : Deploy) (session : Option Session) (user : User)
    (userId : UserId) :
    (Dashboard.removeUser deploy user userId).All TableOp.apply
      (MayIssue (.deleteUser session userId)) := by
  refine Program.All.bind (all_of_reads (membershipsForUser_reads _)) fun memberships => ?_
  refine Program.All.bind
    (all_of_writesIn (Dashboard.removeMemberships_writesIn userId memberships) (by decide)) fun _ => ?_
  have flag : MayIssue (.deleteUser session userId) (.deleteItem (sysadminPk userId)) :=
    fun pk deletes inside => ⟨userId, rfl, Or.inl rfl⟩
  have record : MayIssue (.deleteUser session userId) (.deleteItem (userPk userId)) :=
    fun pk deletes inside => ⟨userId, rfl, Or.inr rfl⟩
  have index : WritesIn ["USEREMAIL".toList]
      (deleteItem (userEmailPk (deploy.normalize user.email))) := writesIn_deleteItem (by simp)
  refine Program.All.bind (Program.All.perform flag) fun _ => ?_
  refine Program.All.bind (Program.All.tryCatch (all_of_writesIn index (by decide)) fun _ => trivial)
    fun _ => ?_
  exact Program.All.tryCatch (Program.All.perform record) fun _ => trivial

theorem deleteUser_all (deploy : Deploy) (session : Option Session) (userId : UserId) :
    (Dashboard.deleteUser deploy session userId).All TableOp.apply
      (MayIssue (.deleteUser session userId)) := by
  refine Program.All.bind (all_of_reads (Dashboard.getPrincipal_reads _)) fun principal => ?_
  refine Program.All.bind (all_of_reads (Dashboard.requireUserMgmt_reads _ _ _)) fun _ => ?_
  have lookup : (do let user ← getUser userId; return some user :
      TableProgram (Option User)).All TableOp.apply (MayIssue (.deleteUser session userId)) :=
    Program.All.bind (all_of_reads (getUser_reads _)) fun _ => trivial
  refine Program.All.bind (Program.All.tryCatch lookup fun error => ?_) fun found => ?_
  · cases error <;> trivial
  · cases found with
    | none => trivial
    | some user => exact removeUser_all deploy session user userId

theorem updateSysadmin_all (session : Option Session) (userId : UserId) (sysadmin : Bool)
    (now : Int) :
    (Dashboard.updateSysadmin session userId sysadmin now).All TableOp.apply
      (MayIssue (.updateSysadmin session userId sysadmin now)) := by
  unfold Dashboard.updateSysadmin
  refine Program.All.bind (all_of_reads (Dashboard.getPrincipal_reads _)) fun principal => ?_
  dsimp only
  split
  · trivial
  refine Program.All.bind (all_of_reads ((getUser_reads _).orNotFound _)) fun target => ?_
  have report : ∀ email, (do
      let holds ← isSysadmin userId
      return { userId, email, sysadmin := holds } :
        TableProgram Dashboard.SysadminState).All TableOp.apply
          (MayIssue (.updateSysadmin session userId sysadmin now)) :=
    fun email => Program.All.bind (all_of_reads (isSysadmin_reads _)) fun _ => trivial
  cases sysadmin with
  | true =>
      refine Program.All.bind (all_of_reads findSystemOrg_reads) fun found => ?_
      cases found with
      | none => trivial
      | some systemOrg =>
          refine Program.All.bind (all_of_reads (roleOf_reads _ _)) fun role => ?_
          split
          · trivial
          · exact Program.All.bind (all_putItem _ _) fun _ => report target.email
  | false =>
      have flag : MayIssue (.updateSysadmin session userId false now)
          (.deleteItem (sysadminPk userId)) := fun pk deletes inside => ⟨userId, rfl, rfl⟩
      refine Program.All.bind (all_of_reads listUsers_reads) fun users => ?_
      refine Program.All.bind (all_of_reads (Dashboard.countSysadmins_reads _ _)) fun remaining => ?_
      split
      · trivial
      · exact Program.All.bind (Program.All.perform flag) fun _ => report target.email

theorem program_all (deploy : Deploy) (request : AdminRequest) :
    (request.program deploy).All TableOp.apply (MayIssue request) := by
  cases request with
  | bootstrap draw => exact Program.All.bind (bootstrap_all _ _) fun _ => trivial
  | createOrg session name orgId now =>
      exact Program.All.bind (createOrg_all _ _ _ _ _) fun _ => trivial
  | updateOrg session orgId body now =>
      exact Program.All.bind (updateOrg_all _ _ _ _ _) fun _ => trivial
  | deleteOrg session orgId => exact deleteOrg_all _ _ _
  | createUser session body cognito draw =>
      exact Program.All.bind (createUser_endpoint_all _ _ _ _ _) fun _ => trivial
  | updateUserRole session userId role orgId now =>
      exact Program.All.bind (updateUserRole_all _ _ _ _ _ _) fun _ => trivial
  | deleteUser session userId => exact deleteUser_all _ _ _
  | updateSysadmin session userId sysadmin now =>
      exact Program.All.bind (updateSysadmin_all _ _ _ _) fun _ => trivial

end Bounds

/-! ### Runs -/

/-- The table of a completed bootstrap, with no request under way. -/
def start (deploy : Deploy) (draw : Bootstrap.Draw) : AdminPool :=
  { state := (runAlone (Bootstrap.bootstrap deploy.normalize draw) Dict.empty).2 }

theorem standing_completed (normalize : String → String) (draw : Bootstrap.Draw) :
    Standing (Bootstrap.completed normalize draw draw) draw.userId := by
  have complete := @Bootstrap.complete_completed normalize draw draw
  have record := complete.record
  have flag := complete.sysadmin
  rw [Bootstrap.newUser_userId] at record flag
  refine ⟨?_, flag⟩
  rw [record]
  exact Option.some_ne_none _

theorem kept_start (deploy : Deploy) (draw : Bootstrap.Draw) : Kept (start deploy draw) := by
  obtain ⟨report, ran⟩ := @Bootstrap.bootstrap_empty deploy.normalize draw
  have state : (start deploy draw).state = Bootstrap.completed deploy.normalize draw draw := by
    unfold start
    rw [ran]
  unfold Kept
  rw [state]
  exact ⟨draw.userId, standing_completed deploy.normalize draw⟩

/-- A row is there after an operation that does not delete it. -/
theorem getItem_apply_ne_none {table : Table} {pk : String} {op : TableOp}
    (present : table.getItem pk ≠ none) (kept : op ≠ .deleteItem pk) :
    (op.apply table).2.getItem pk ≠ none := by
  cases op with
  | getItem => exact present
  | scanPrefix => exact present
  | putItem key item =>
      change (table.putItem key item).getItem pk ≠ none
      rw [Table.getItem_putItem]
      split
      · exact Option.some_ne_none _
      · exact present
  | putNew key item =>
      unfold TableOp.apply
      dsimp only
      split
      · rw [Table.getItem_putItem]
        split
        · exact Option.some_ne_none _
        · exact present
      · exact present
  | updateItem key fields =>
      unfold TableOp.apply
      dsimp only
      split
      · exact present
      · rw [Table.getItem_putItem]
        split
        · exact Option.some_ne_none _
        · exact present
  | updateWhere key name value fields =>
      unfold TableOp.apply
      dsimp only
      split
      · exact present
      · split
        · rw [Table.getItem_putItem]
          split
          · exact Option.some_ne_none _
          · exact present
        · exact present
  | deleteItem key =>
      change (table.deleteItem key).getItem pk ≠ none
      rw [Table.getItem_deleteItem_of_ne table fun same => kept (congrArg TableOp.deleteItem same.symm)]
      exact present

theorem Removes.deletes {request : AdminRequest} {op : TableOp} {userId : UserId}
    (removes : Removes request op userId) :
    op = .deleteItem (sysadminPk userId) ∨ op = .deleteItem (userPk userId) := by
  cases request with
  | deleteUser session target => exact removes.2
  | updateSysadmin session target sysadmin now =>
      cases sysadmin with
      | false => exact Or.inl removes.2
      | true => cases removes
  | _ => cases removes

theorem Removes.target_eq {request : AdminRequest} {op : TableOp} {left right : UserId}
    (first : Removes request op left) (second : Removes request op right) : left = right := by
  cases request with
  | deleteUser session target => exact first.1.symm.trans second.1
  | updateSysadmin session target sysadmin now =>
      cases sysadmin with
      | false => exact first.1.symm.trans second.1
      | true => cases first
  | _ => cases first

/-- The user of a removal stands no longer, every other user stands as before. -/
theorem Removes.standing_iff {request : AdminRequest} {op : TableOp} {userId : UserId}
    (removes : Removes request op userId) (table : Table) (other : UserId) :
    Standing (op.apply table).2 other ↔ other ≠ userId ∧ Standing table other := by
  unfold Standing
  rcases removes.deletes with rfl | rfl
  · simp only [TableOp.apply, Table.getItem_deleteItem, sysadminPk_inj,
      Table.getItem_deleteItem_of_family table (show familyOf '#' (userPk other) ≠
        familyOf '#' (sysadminPk userId) by simp)]
    by_cases same : other = userId <;> simp [same]
  · simp only [TableOp.apply, Table.getItem_deleteItem, userPk_inj,
      Table.getItem_deleteItem_of_family table (show familyOf '#' (sysadminPk other) ≠
        familyOf '#' (userPk userId) by simp)]
    by_cases same : other = userId <;> simp [same]

theorem Standing.apply {request : AdminRequest} {op : TableOp} {table : Table} {userId : UserId}
    (stands : Standing table userId) (may : MayIssue request op)
    (none : ∀ userId, ¬ Removes request op userId) : Standing (op.apply table).2 userId := by
  have keeps : ∀ pk, familyOf '#' pk ∈ ["USER".toList, "SYSADMIN".toList] →
      op ≠ .deleteItem pk := by
    intro pk inside deletes
    obtain ⟨removed, removes⟩ := may pk deletes inside
    exact none removed removes
  exact ⟨getItem_apply_ne_none stands.1 (keeps _ (by simp)),
    getItem_apply_ne_none stands.2 (keeps _ (by simp))⟩

/-- A step keeps a sysadmin exactly when it is careful. -/
theorem kept_step_iff {deploy : Deploy} {pool : AdminPool}
    {event : PoolEvent CallError AdminRequest} (bounded : pool.Bounded TableOp.apply MayIssue)
    (kept : Kept pool) : Kept (AdminPool.step deploy pool event) ↔ Careful pool event := by
  unfold Careful AdminPool.step Kept
  unfold Kept at kept
  rw [Pool.state_step]
  cases performs : Pool.next? pool event with
  | none =>
      dsimp only
      refine iff_of_true kept ?_
      rintro request op userId ⟨⟩
  | some performed =>
      obtain ⟨request, op, raised⟩ := performed
      cases raised with
      | some error =>
          dsimp only
          refine iff_of_true kept ?_
          rintro request op userId ⟨⟩
      | none =>
          dsimp only
          by_cases removal : ∃ userId, Removes request op userId
          · obtain ⟨userId, removes⟩ := removal
            simp only [removes.standing_iff]
            constructor
            · rintro ⟨other, different, stands⟩ _ _ again ⟨⟩ removesAgain -
              rw [removesAgain.target_eq removes]
              exact ⟨other, different, stands⟩
            · intro careful
              by_cases stands : Standing pool.state userId
              · exact careful request op userId rfl removes stands
              · obtain ⟨other, standsToo⟩ := kept
                exact ⟨other, fun same => stands (same ▸ standsToo), standsToo⟩
          · have none : ∀ userId, ¬ Removes request op userId := fun userId removes =>
              removal ⟨userId, removes⟩
            obtain ⟨userId, stands⟩ := kept
            refine iff_of_true ⟨userId, stands.apply (bounded.next performs) none⟩ ?_
            rintro _ _ removed ⟨⟩ removes
            exact absurd removes (none removed)

/-- The platform keeps a sysadmin throughout exactly when no deletion of a user
and no revocation removes the last one. -/
theorem always_kept_iff (deploy : Deploy) (draw : Bootstrap.Draw)
    (events : List (PoolEvent CallError AdminRequest)) :
    Always (AdminPool.step deploy) Kept (start deploy draw) events ↔
      EachStep (AdminPool.step deploy) Careful (start deploy draw) events :=
  always_iff_eachStep_of_kept (AdminPool.step deploy)
    (fun _ _ bounded _ => Pool.Bounded.step bounded fun request _ => program_all deploy request)
    (fun _ _ bounded kept _ => kept_step_iff bounded kept) nofun (kept_start deploy draw)
    (eachStep_true _ _ _)

/-- Superwoman, alone with the flag, deletes her own account; the table answers
the eighth operation. -/
def selfDeletion : List (PoolEvent CallError AdminRequest) :=
  .start (.deleteUser (some ⟨"user"⟩) "user") :: List.replicate 8 (.advance 0 none)

theorem not_always_kept_selfDeletion :
    ¬ Always (AdminPool.step { normalize := id }) Kept
      (start { normalize := id } ⟨"org", "user", 0, 0, 0, 0⟩) selfDeletion := by
  intro always
  obtain ⟨userId, -, flag⟩ := always.final
  obtain ⟨item, stored⟩ := Option.ne_none_iff_exists'.mp flag
  have key := @List.mem_map_of_mem _ _ _ _ (familyOf '#') (Dict.mem_keys_iff.mpr ⟨item, stored⟩)
  rw [familyOf_sysadminPk] at key
  revert key
  decide +kernel

end LastSysadmin

end TradingStrands
