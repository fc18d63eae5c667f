import TradingStrands.Bootstrap.Recovery
import TradingStrands.Dashboard.Admin

/-!
Owns the system organisation: that there is one, and that every holder of the
sysadmin flag is a member of it, while bootstraps and the administration of
organisations, roles and flags interleave. Once a bootstrap has found or created
it, it stays, and so do its members; each request relies on that of the others.
Two operations can break it: the deletion of its row, and a creation decided on
a scan that is no longer true.
-/

namespace TradingStrands

open TradingStrands.Foundation TenancyStore TableProgram

namespace SystemOrg

/-- The row of the organisation is there and of type system. -/
def IsSystem (table : Table) (orgId : OrgId) : Prop :=
  (table.getItem (orgPk orgId)).bind (fun item => item.attr? "org_type") = some (.text "system")

instance (table : Table) (orgId : OrgId) : Decidable (IsSystem table orgId) :=
  inferInstanceAs (Decidable (_ = _))

def IsMember (table : Table) (userId : UserId) (orgId : OrgId) : Prop :=
  table.getItem (userOrgPk userId orgId) ≠ none

/-- Exactly one row of type system exists, and every user with a sysadmin row
has a membership there. -/
def Singleton (table : Table) : Prop :=
  ∃ orgId, IsSystem table orgId ∧ (∀ other, IsSystem table other → other = orgId) ∧
    ∀ userId, table.getItem (sysadminPk userId) ≠ none → IsMember table userId orgId

/-- No organisation is of type system. -/
def NoSystem (table : Table) : Prop :=
  ∀ row ∈ table.scanPrefix orgPrefix, Item.attr? row.2 "org_type" ≠ some (.text "system")

instance (table : Table) : Decidable (NoSystem table) :=
  inferInstanceAs (Decidable (∀ row ∈ _, _))

theorem NoSystem.not_isSystem {table : Table} (none : NoSystem table) (orgId : OrgId) :
    ¬ IsSystem table orgId := by
  intro system
  obtain ⟨item, stored, type⟩ := Option.bind_eq_some_iff.mp system
  exact none (orgPk orgId, item) (Table.mem_scanPrefix_iff.mpr ⟨stored, orgPk_begins orgId⟩) type

/-! ### What the table keeps -/

/-- Each organisation's row carries its id, at most one is of type system, and
the holders of the flag are its members. -/
structure Sound (table : Table) : Prop where
  named : ∀ pk item, table.getItem pk = some item → familyOf '#' pk = "ORG".toList →
    ∃ orgId, pk = orgPk orgId ∧ item.attr? "org_id" = some (.text orgId)
  unique : ∀ left right, IsSystem table left → IsSystem table right → left = right
  members : ∀ userId, table.getItem (sysadminPk userId) ≠ none →
    ∃ orgId, IsSystem table orgId ∧ IsMember table userId orgId

/-- A system organisation stays one, and members stay members. -/
structure Grows (before after : Table) : Prop where
  systems : ∀ orgId, IsSystem before orgId → IsSystem after orgId
  members : ∀ userId orgId, IsMember before userId orgId → IsMember after userId orgId

theorem Grows.refl (table : Table) : Grows table table :=
  ⟨fun _ system => system, fun _ _ member => member⟩

theorem Grows.trans (first second third : Table) (left : Grows first second)
    (right : Grows second third) : Grows first third :=
  ⟨fun orgId system => right.systems orgId (left.systems orgId system),
    fun userId orgId member => right.members userId orgId (left.members userId orgId member)⟩

theorem sound_empty : Sound Dict.empty where
  named := nofun
  unique := nofun
  members := fun _ flag => absurd rfl flag

/-- A change after which the same organisations are of type system, no flag is
new and no membership is gone. -/
theorem advances_of_systems {table after : Table} (sound : Sound table)
    (named : ∀ pk item, after.getItem pk = some item → familyOf '#' pk = "ORG".toList →
      ∃ orgId, pk = orgPk orgId ∧ item.attr? "org_id" = some (.text orgId))
    (systems : ∀ orgId, IsSystem after orgId ↔ IsSystem table orgId)
    (flags : ∀ userId, after.getItem (sysadminPk userId) ≠ none →
      table.getItem (sysadminPk userId) ≠ none)
    (members : ∀ userId orgId, IsMember table userId orgId → IsMember after userId orgId) :
    Sound after ∧ Grows table after := by
  refine ⟨⟨named, fun left right first second => ?_, fun userId flag => ?_⟩,
    ⟨fun orgId => (systems orgId).mpr, members⟩⟩
  · exact sound.unique left right ((systems left).mp first) ((systems right).mp second)
  · obtain ⟨orgId, isSystem, member⟩ := sound.members userId (flags userId flag)
    exact ⟨orgId, (systems orgId).mpr isSystem, members userId orgId member⟩

/-- A change that leaves the organisations alone, sets no flag and removes no
membership. -/
theorem advances_of_rows {table after : Table} (sound : Sound table)
    (orgs : ∀ pk, familyOf '#' pk = "ORG".toList → after.getItem pk = table.getItem pk)
    (flags : ∀ userId, after.getItem (sysadminPk userId) ≠ none →
      table.getItem (sysadminPk userId) ≠ none)
    (members : ∀ userId orgId, IsMember table userId orgId → IsMember after userId orgId) :
    Sound after ∧ Grows table after := by
  refine advances_of_systems sound (fun pk item stored inside => ?_) (fun orgId => ?_) flags members
  · rw [orgs pk inside] at stored
    exact sound.named pk item stored inside
  · unfold IsSystem
    rw [orgs _ (familyOf_orgPk orgId)]

/-- Rows outside the three families do not matter. -/
theorem advances_of_writesIn {table : Table} (sound : Sound table) {op : TableOp}
    {families : List (List Char)} (within : op.WritesIn families)
    (apart : ∀ family ∈ ["ORG".toList, "SYSADMIN".toList, "USERORG".toList], family ∉ families) :
    Sound (op.apply table).2 ∧ Grows table (op.apply table).2 := by
  refine advances_of_rows sound (fun other inside => ?_) (fun userId => ?_)
    fun userId orgId member => ?_
  · exact within.getItem_apply (inside ▸ apart _ (by simp)) table
  · rw [within.getItem_apply (by simpa using apart "SYSADMIN".toList (by simp)) table]
    exact id
  · unfold IsMember
    rw [within.getItem_apply (by simpa using apart "USERORG".toList (by simp)) table]
    exact member

theorem isSystem_putItem_newOrg {table : Table} {org : Org}
    (free : table.getItem (orgPk org.orgId) = none) (orgId : OrgId) :
    IsSystem (table.putItem (orgPk org.orgId) org.modelDump) orgId ↔
      IsSystem table orgId ∨ orgId = org.orgId ∧ org.orgType = .system := by
  unfold IsSystem
  rw [Table.getItem_putItem]
  by_cases same : orgId = org.orgId
  · subst same
    rw [if_pos rfl, free]
    cases type : org.orgType <;> simp [Org.modelDump, Item.attr?, type, OrgType.value]
  · rw [if_neg (by simpa using same)]
    simp [same]

/-- A new organisation, of type system only if there is none. -/
theorem advances_newOrg {table : Table} (sound : Sound table) {org : Org}
    (free : table.getItem (orgPk org.orgId) = none)
    (alone : org.orgType = .system → NoSystem table) :
    Sound (table.putItem (orgPk org.orgId) org.modelDump) ∧
      Grows table (table.putItem (orgPk org.orgId) org.modelDump) := by
  have grows : Grows table (table.putItem (orgPk org.orgId) org.modelDump) := by
    refine ⟨fun orgId system => (isSystem_putItem_newOrg free orgId).mpr (Or.inl system),
      fun userId orgId member => ?_⟩
    unfold IsMember
    rw [Table.getItem_putItem_of_family table _ (by simp)]
    exact member
  refine ⟨⟨fun pk item stored inside => ?_, fun left right first second => ?_, fun userId flag => ?_⟩,
    grows⟩
  · rw [Table.getItem_putItem] at stored
    split at stored
    next same =>
      cases stored
      exact ⟨org.orgId, same, rfl⟩
    next => exact sound.named pk item stored inside
  · rcases (isSystem_putItem_newOrg free left).mp first with old | ⟨rfl, system⟩
    · rcases (isSystem_putItem_newOrg free right).mp second with oldToo | ⟨rfl, system⟩
      · exact sound.unique left right old oldToo
      · exact absurd old ((alone system).not_isSystem left)
    · rcases (isSystem_putItem_newOrg free right).mp second with old | ⟨rfl, -⟩
      · exact absurd old ((alone system).not_isSystem right)
      · rfl
  · rw [Table.getItem_putItem_of_family table _ (by simp)] at flag
    obtain ⟨orgId, system, member⟩ := sound.members userId flag
    exact ⟨orgId, grows.systems orgId system, grows.members userId orgId member⟩

/-- A flag for a member of the system organisation. -/
theorem advances_flag {table : Table} (sound : Sound table) {userId : UserId} {orgId : OrgId}
    (system : IsSystem table orgId) (member : IsMember table userId orgId) (item : Item) :
    Sound (table.putItem (sysadminPk userId) item) ∧
      Grows table (table.putItem (sysadminPk userId) item) := by
  have systems : ∀ other, IsSystem (table.putItem (sysadminPk userId) item) other ↔
      IsSystem table other := by
    intro other
    unfold IsSystem
    rw [Table.getItem_putItem_of_family table item (by simp)]
  have members : ∀ other otherOrg, IsMember (table.putItem (sysadminPk userId) item) other otherOrg ↔
      IsMember table other otherOrg := by
    intro other otherOrg
    unfold IsMember
    rw [Table.getItem_putItem_of_family table item (by simp)]
  refine ⟨⟨fun pk stored present inside => ?_, fun left right first second => ?_,
    fun other flag => ?_⟩, ⟨fun other => (systems other).mpr, fun other otherOrg =>
      (members other otherOrg).mpr⟩⟩
  · rw [Table.getItem_putItem_of_family table item (by simp [inside])] at present
    exact sound.named pk stored present inside
  · exact sound.unique left right ((systems left).mp first) ((systems right).mp second)
  · rw [Table.getItem_putItem] at flag
    split at flag
    next same =>
      rw [sysadminPk_inj.mp same]
      exact ⟨orgId, (systems orgId).mpr system, (members userId orgId).mpr member⟩
    next =>
      obtain ⟨otherOrg, otherSystem, otherMember⟩ := sound.members other flag
      exact ⟨otherOrg, (systems otherOrg).mpr otherSystem, (members other otherOrg).mpr otherMember⟩

/-- An update that leaves the id and the type of an organisation. -/
theorem advances_update {table : Table} (sound : Sound table) {orgId : OrgId} {item : Item}
    (stored : table.getItem (orgPk orgId) = some item) {fields : List (String × Attr)}
    (others : ∀ field ∈ fields, field.1 ≠ "org_id" ∧ field.1 ≠ "org_type") :
    Sound (table.putItem (orgPk orgId) (item.update fields)) ∧
      Grows table (table.putItem (orgPk orgId) (item.update fields)) := by
  have sameId := item.attr?_update_of_notMem fun field member => (others field member).1
  have sameType := item.attr?_update_of_notMem fun field member => (others field member).2
  refine advances_of_systems sound (fun pk row present inside => ?_) (fun other => ?_)
    (fun userId => ?_) fun userId other member => ?_
  · rw [Table.getItem_putItem] at present
    split at present
    next same =>
      cases present
      rw [sameId]
      exact sound.named pk item (same ▸ stored) inside
    next => exact sound.named pk row present inside
  · unfold IsSystem
    rw [Table.getItem_putItem]
    split
    next same =>
      rw [same, stored, Option.bind_some, Option.bind_some, sameType]
    next => exact Iff.rfl
  · rw [Table.getItem_putItem_of_family table _ (by simp)]
    exact id
  · unfold IsMember
    rw [Table.getItem_putItem_of_family table _ (by simp)]
    exact member

theorem advances_deleteOrg {table : Table} (sound : Sound table) {orgId : OrgId}
    (customer : ¬ IsSystem table orgId) :
    Sound (table.deleteItem (orgPk orgId)) ∧ Grows table (table.deleteItem (orgPk orgId)) := by
  refine advances_of_systems sound (fun pk item present inside => ?_) (fun other => ?_)
    (fun userId => ?_) fun userId other member => ?_
  · rw [Table.getItem_deleteItem] at present
    split at present
    · cases present
    · exact sound.named pk item present inside
  · by_cases same : other = orgId
    · refine iff_of_false ?_ (same ▸ customer)
      unfold IsSystem
      rw [same, Table.getItem_deleteItem_self]
      exact nofun
    · unfold IsSystem
      rw [Table.getItem_deleteItem_of_ne table (by simpa using same)]
  · rw [Table.getItem_deleteItem_of_family table (by simp)]
    exact id
  · unfold IsMember
    rw [Table.getItem_deleteItem_of_family table (by simp)]
    exact member

theorem advances_revoke {table : Table} (sound : Sound table) (userId : UserId) :
    Sound (table.deleteItem (sysadminPk userId)) ∧
      Grows table (table.deleteItem (sysadminPk userId)) := by
  refine advances_of_rows sound (fun pk inside => ?_) (fun other => ?_) fun other orgId member => ?_
  · exact Table.getItem_deleteItem_of_family table (by simp [inside])
  · rw [Table.getItem_deleteItem]
    split
    · exact absurd rfl
    · exact id
  · unfold IsMember
    rw [Table.getItem_deleteItem_of_family table (by simp)]
    exact member

/-! ### Requests among others -/

/-- No request deletes the row of a system organisation, and no bootstrap
creates one where there is one. -/
def Allowed : AdminRequest → TableOp → Table → Prop
  | .deleteOrg _ orgId, .deleteItem _, table => ¬ IsSystem table orgId
  | .bootstrap draw, .putNew pk _, table =>
      pk = orgPk draw.orgId → table.getItem pk = none → NoSystem table
  | _, _, _ => True

/-- Run among requests that keep `Sound` and do no more than `Grows`, the
program does the same, and ends in `Ends`. -/
abbrev Assures (request : AdminRequest) {α : Type} (program : TableProgram α)
    (Ends : Except CallError α → Table → Prop) (table : Table) : Prop :=
  program.Ensures TableOp.apply Sound Grows (fun table op => Allowed request op table) Ends table

section Requests

variable {request : AdminRequest} {α : Type} {table : Table}

theorem assures_writesIn {program : TableProgram α} {families : List (List Char)}
    (writes : WritesIn families program)
    (apart : ∀ family ∈ ["ORG".toList, "SYSADMIN".toList, "USERORG".toList], family ∉ families)
    {Ends : Except CallError α → Table → Prop}
    (ends : ∀ outcome later, Grows table later → Ends outcome later) :
    Assures request program Ends table :=
  Program.All.ensures writes Grows.trans
    (fun _ _ within sound _ => advances_of_writesIn sound within apart) ends (Grows.refl table)

theorem assures_reads {program : TableProgram α} (reads : ReadsOnly program)
    {Ends : Except CallError α → Table → Prop}
    (ends : ∀ outcome later, Grows table later → Ends outcome later) :
    Assures request program Ends table :=
  assures_writesIn reads (fun _ _ => List.not_mem_nil) ends

/-- The organisation that is found is the system organisation. -/
theorem findSystemOrg_assures :
    Assures request findSystemOrg
      (fun outcome later => ∀ org, outcome = .ok (some org) → IsSystem later org.orgId) table := by
  have listed : Assures request listOrgs (fun outcome later => ∀ orgs, outcome = .ok orgs →
      ∀ org ∈ orgs, org.orgType = .system → IsSystem later org.orgId) table := by
    refine Program.Ensures.perform_bind fun later _ sound _ =>
      ⟨sound, Grows.refl later, fun orgs done org member system => ?_⟩
    obtain ⟨row, inside, reads⟩ := exists_of_mapM_ok done member
    obtain ⟨stored, begins⟩ := Table.mem_scanPrefix_iff.mp inside
    obtain ⟨idAttr, typeAttr⟩ := Org.attrs_of_modelValidate reads
    obtain ⟨orgId, key, named⟩ := sound.named row.1 row.2 stored (familyOf_of_orgPrefix begins)
    have same : orgId = org.orgId := by
      rw [idAttr] at named
      simpa using named.symm
    unfold IsSystem
    rw [← same, ← key]
    exact Option.bind_eq_some_iff.mpr ⟨row.2, stored, typeAttr system⟩
  refine Program.Ensures.bind listed (fun orgs state ends org found => ?_) nofun
  have first : orgs.find? (fun org => org.orgType = .system) = some org := Except.ok.inj found
  refine ends orgs rfl org (List.mem_of_find?_eq_some first) ?_
  simpa using List.find?_some first

theorem roleOf_assures (userId : UserId) (orgId : OrgId) :
    Assures request (roleOf userId orgId)
      (fun outcome later => ∀ role, outcome = .ok (some role) → IsMember later userId orgId)
      table := by
  refine Program.Ensures.perform_bind fun later _ sound _ => ⟨sound, Grows.refl later, ?_⟩
  dsimp only [TableOp.apply]
  cases stored : later.getItem (userOrgPk userId orgId) with
  | none =>
      intro role same
      cases same
  | some item =>
      refine assures_reads (Program.All.bind (writesIn_parsed _) fun _ => writesIn_pure _) ?_
      intro outcome after grows role _
      refine grows.members userId orgId ?_
      unfold IsMember
      rw [stored]
      exact Option.some_ne_none item

theorem advances_member {table : Table} (sound : Sound table) (userId : UserId) (orgId : OrgId)
    (item : Item) :
    Sound (table.putItem (userOrgPk userId orgId) item) ∧
      Grows table (table.putItem (userOrgPk userId orgId) item) := by
  refine advances_of_rows sound (fun pk inside => ?_) (fun other => ?_) fun other otherOrg member => ?_
  · exact Table.getItem_putItem_of_family table item (by simp [inside])
  · rw [Table.getItem_putItem_of_family table item (by simp)]
    exact id
  · unfold IsMember
    rw [Table.getItem_putItem]
    split
    · exact Option.some_ne_none item
    · exact member

theorem assures_putItem {pk : String} {item : Item} {Ends : Except CallError Unit → Table → Prop}
    (steps : ∀ later, Grows table later → Sound later →
      Sound (later.putItem pk item) ∧ Grows later (later.putItem pk item) ∧
        Ends (.ok ()) (later.putItem pk item)) :
    Assures request (putItem pk item) Ends table :=
  fun later between sound _ => steps later between sound

/-- The program is done with a member of the organisation. -/
theorem addMembership_assures (userId : UserId) (orgId : OrgId) (role : Role) (now : Int) :
    Assures request (addMembership userId orgId role now)
      (fun _ later => IsMember later userId orgId) table := by
  refine Program.Ensures.perform_bind fun later _ sound _ => ?_
  obtain ⟨soundAfter, grows⟩ := advances_member sound userId orgId
    (membershipItem userId orgId role now)
  refine ⟨soundAfter, grows, ?_⟩
  have member : IsMember (later.putItem (userOrgPk userId orgId)
      (membershipItem userId orgId role now)) userId orgId := by
    unfold IsMember
    rw [Table.getItem_putItem_self]
    exact Option.some_ne_none _
  have otherSide : Assures request
      (putItem (orgUserPk orgId userId) (membershipItem userId orgId role now))
      (fun outcome after => outcome = .ok () ∧ IsMember after userId orgId)
      (later.putItem (userOrgPk userId orgId) (membershipItem userId orgId role now)) := by
    refine assures_putItem fun after between soundNow => ?_
    have within : TableOp.WritesIn ["ORGUSER".toList]
        (.putItem (orgUserPk orgId userId) (membershipItem userId orgId role now)) :=
      writesIn_of_target rfl (by simp)
    obtain ⟨soundThen, growsThen⟩ := advances_of_writesIn soundNow within (by decide)
    exact ⟨soundThen, growsThen, rfl, (between.trans _ _ _ growsThen).members userId orgId member⟩
  exact Program.Ensures.bind (otherSide.tryCatch_of_never fun _ _ ends => nomatch ends.1)
    (fun _ _ ends => ends.2) fun _ _ ends => ends.2

/-- The creation of an organisation, where a request may create one of this
type only if there is no system organisation. -/
theorem createOrg_assures {name : String} {orgType : OrgType} {orgId : OrgId} {now : Int}
    (alone : ∀ item later, Allowed request (.putNew (orgPk orgId) item) later →
      later.getItem (orgPk orgId) = none → orgType = .system → NoSystem later) :
    Assures request (TenancyStore.createOrg name orgType orgId now)
      (fun outcome later => ∀ org, outcome = .ok org → orgType = .system →
        IsSystem later org.orgId) table := by
  refine Program.Ensures.perform_bind fun later _ sound permitted => ?_
  cases stored : later.getItem (orgPk orgId) with
  | none =>
      simp only [TableOp.apply, stored, if_true]
      obtain ⟨soundAfter, grows⟩ := @advances_newOrg later sound
        ⟨orgId, name, orgType, now, now, []⟩ stored (alone _ later permitted stored)
      have created := @isSystem_putItem_newOrg later ⟨orgId, name, orgType, now, now, []⟩ stored orgId
      refine ⟨soundAfter, grows, ?_⟩
      rintro _ ⟨⟩ system
      exact created.mpr (Or.inr ⟨rfl, system⟩)
  | some item =>
      simp only [TableOp.apply, stored]
      refine ⟨sound, Grows.refl later, ?_⟩
      intro org same
      cases same

/-- A flag granted to a member of the system organisation. -/
theorem grantSysadmin_assures {userId : UserId} {orgId : OrgId} {now : Int}
    (system : IsSystem table orgId) (member : IsMember table userId orgId) :
    Assures request (grantSysadmin userId now) (fun _ later => IsSystem later orgId) table := by
  refine assures_putItem fun later between sound => ?_
  obtain ⟨soundAfter, grows⟩ := advances_flag sound (between.systems orgId system)
    (between.members userId orgId member) [("user_id", .text userId), ("created_at", .number now)]
  exact ⟨soundAfter, grows, (between.trans _ _ _ grows).systems orgId system⟩

end Requests

/-! ### Bootstrap -/

section Bootstrap

variable {normalize : String → String} {draw : Bootstrap.Draw} {table : Table}

/-- The organisation of a bootstrap is the system organisation. -/
theorem ensureSystemOrg_assures :
    Assures (.bootstrap draw) (Bootstrap.ensureSystemOrg draw)
      (fun outcome later => ∀ org, outcome = .ok org → IsSystem later org.1.orgId) table := by
  refine Program.Ensures.bind findSystemOrg_assures (fun found state ends => ?_) nofun
  cases found with
  | some existing =>
      rintro _ ⟨⟩
      exact ends existing rfl
  | none =>
      have creates : Assures (.bootstrap draw)
          (TenancyStore.createOrg Bootstrap.systemOrgName .system draw.orgId draw.orgAt)
          (fun outcome later => ∀ org, outcome = .ok org → OrgType.system = .system →
            IsSystem later org.orgId) state :=
        createOrg_assures fun _ _ permitted free _ => permitted rfl free
      refine Program.Ensures.bind creates (fun org after system => ?_) nofun
      rintro _ ⟨⟩
      exact system org rfl rfl

theorem ensureMembership_assures {user : User} {org : Org} :
    Assures (.bootstrap draw) (Bootstrap.ensureMembership user org draw)
      (fun outcome later => (∃ added, outcome = .ok added) →
        IsMember later user.userId org.orgId) table := by
  refine Program.Ensures.bind (roleOf_assures _ _) (fun role state ends => ?_) nofun
  cases role with
  | some role => exact fun _ => ends role rfl
  | none =>
      exact Program.Ensures.bind (addMembership_assures _ _ _ _) (fun _ _ member _ => member) nofun

/-- The flag goes to a member of the system organisation. -/
theorem ensureSysadmin_assures {user : User} {created : Bool} {org : Org}
    (system : IsSystem table org.orgId) (member : IsMember table user.userId org.orgId) :
    Assures (.bootstrap draw) (Bootstrap.ensureSysadmin user created draw)
      (fun _ later => IsSystem later org.orgId) table := by
  unfold Bootstrap.ensureSysadmin
  split
  · exact system
  · have holds : Assures (.bootstrap draw) (isSysadmin user.userId)
        (fun _ later => IsSystem later org.orgId ∧ IsMember later user.userId org.orgId) table :=
      assures_reads (isSysadmin_reads _) fun _ _ grows =>
        ⟨grows.systems _ system, grows.members _ _ member⟩
    refine Program.Ensures.bind holds (fun already state ends => ?_) fun _ _ ends => ends.1
    split
    · exact ends.1
    · exact Program.Ensures.bind (grantSysadmin_assures ends.1 ends.2)
        (fun _ _ stays => stays) fun _ _ stays => stays

theorem ensureUser_assures :
    Assures (.bootstrap draw) (Bootstrap.ensureUser normalize draw) (fun _ _ => True) table := by
  refine Program.Ensures.bind (assures_reads (findUserByEmail_reads _ _) fun _ _ _ => trivial)
    (fun found state _ => ?_) fun _ _ _ => trivial
  cases found with
  | some existing => trivial
  | none =>
      exact Program.Ensures.bind
        (assures_writesIn (createUser_writesIn _ _ _ _ _ _) (by decide) fun _ _ _ => trivial)
        (fun _ _ _ => trivial) fun _ _ _ => trivial

/-- A bootstrap that returns leaves a system organisation. -/
theorem bootstrap_assures :
    Assures (.bootstrap draw) (Bootstrap.bootstrap normalize draw)
      (fun outcome later => (∃ report, outcome = .ok report) → ∃ orgId, IsSystem later orgId)
      table := by
  rw [Bootstrap.bootstrap_eq]
  refine Program.Ensures.bind ensureSystemOrg_assures (fun org afterOrg found => ?_)
    fun _ _ _ ⟨_, returned⟩ => nomatch returned
  have system : IsSystem afterOrg org.1.orgId := found org rfl
  have users := (@ensureUser_assures normalize draw afterOrg).reached Grows.trans (Grows.refl afterOrg)
  refine Program.Ensures.bind users (fun user afterUser reached => ?_)
    fun _ _ _ ⟨_, returned⟩ => nomatch returned
  have stillSystem := reached.2.systems _ system
  have members := (@ensureMembership_assures draw afterUser user.1 org.1).reached Grows.trans
    (Grows.refl afterUser)
  refine Program.Ensures.bind members (fun added afterMember ends => ?_)
    fun _ _ _ ⟨_, returned⟩ => nomatch returned
  refine Program.Ensures.bind (ensureSysadmin_assures (ends.2.systems _ stillSystem)
    (ends.1 ⟨added, rfl⟩)) (fun granted afterGrant stays => ?_)
    fun _ _ _ ⟨_, returned⟩ => nomatch returned
  have pruned : Assures (.bootstrap draw) Bootstrap.deleteLegacyStrategies
      (fun _ later => IsSystem later org.1.orgId) afterGrant :=
    assures_writesIn Bootstrap.deleteLegacyStrategies_writesIn (by decide)
      fun _ _ grows => grows.systems _ stays
  exact Program.Ensures.bind pruned (fun _ _ system _ => ⟨_, system⟩)
    fun _ _ system _ => ⟨_, system⟩

end Bootstrap

/-! ### Endpoints -/

section Endpoints

variable {deploy : Deploy} {session : Option Session} {table : Table}

theorem getPrincipal_assures {request : AdminRequest} :
    Assures request (Dashboard.getPrincipal session) (fun _ _ => True) table :=
  assures_reads (Dashboard.getPrincipal_reads _) fun _ _ _ => trivial

theorem require_assures {request : AdminRequest} {principal : Principal} {action : Action}
    {resource : Resource} :
    Assures request (Dashboard.require deploy principal action resource) (fun _ _ => True) table :=
  assures_reads (Dashboard.require_reads _ _ _ _) fun _ _ _ => trivial

theorem createOrg_endpoint_assures {name : String} {orgId : OrgId} {now : Int} :
    Assures (.createOrg session name orgId now)
      (Dashboard.createOrg deploy session name orgId now) (fun _ _ => True) table := by
  refine Program.Ensures.bind getPrincipal_assures (fun principal state _ => ?_) fun _ _ _ => trivial
  refine Program.Ensures.bind require_assures (fun _ state _ => ?_) fun _ _ _ => trivial
  exact Program.Ensures.mono (fun _ _ _ => trivial)
    (createOrg_assures fun _ _ _ _ => nofun)

theorem OrgUpdate_fields_apart (body : Dashboard.OrgUpdate) (now : Int) :
    ∀ field ∈ body.fields now, field.1 ≠ "org_id" ∧ field.1 ≠ "org_type" := by
  obtain ⟨name, age⟩ := body
  cases name <;> cases age <;> simp [Dashboard.OrgUpdate.fields]

/-- An update keeps the id and the type of the organisation. -/
theorem updateOrg_assures {orgId : OrgId} {body : Dashboard.OrgUpdate} {now : Int} :
    Assures (.updateOrg session orgId body now)
      (Dashboard.updateOrg deploy session orgId body now) (fun _ _ => True) table := by
  refine Program.Ensures.bind getPrincipal_assures (fun principal state _ => ?_) fun _ _ _ => trivial
  refine Program.Ensures.bind require_assures (fun _ state _ => ?_) fun _ _ _ => trivial
  have updates : Assures (.updateOrg session orgId body now)
      (updateItem (orgPk orgId) (body.fields now)) (fun outcome _ => ∃ item, outcome = .ok item)
      state := by
    intro later _ sound _
    cases stored : later.getItem (orgPk orgId) with
    | none =>
        simp only [TableOp.apply, stored]
        exact ⟨sound, Grows.refl later, none, rfl⟩
    | some item =>
        simp only [TableOp.apply, stored]
        obtain ⟨soundAfter, grows⟩ :=
          advances_update sound stored (OrgUpdate_fields_apart body now)
        exact ⟨soundAfter, grows, _, rfl⟩
  refine Program.Ensures.bind
    (updates.tryCatch_of_never fun _ _ returned => ?_) (fun updated after _ => ?_)
    fun _ _ _ => trivial
  · obtain ⟨_, same⟩ := returned
    cases same
  · cases updated <;> trivial

theorem deleteOrg_assures {orgId : OrgId} :
    Assures (.deleteOrg session orgId) (Dashboard.deleteOrg deploy session orgId)
      (fun _ _ => True) table := by
  refine Program.Ensures.bind getPrincipal_assures (fun principal state _ => ?_) fun _ _ _ => trivial
  refine Program.Ensures.bind require_assures (fun _ state _ => ?_) fun _ _ _ => trivial
  intro later _ sound customer
  obtain ⟨soundAfter, grows⟩ := advances_deleteOrg sound customer
  exact ⟨soundAfter, grows, trivial⟩

theorem updateUserRole_assures {userId : UserId} {role : String} {orgId : OrgId} {now : Int} :
    Assures (.updateUserRole session userId role orgId now)
      (Dashboard.updateUserRole deploy session userId role orgId now) (fun _ _ => True) table := by
  refine Program.Ensures.bind getPrincipal_assures (fun principal state _ => ?_) fun _ _ _ => trivial
  refine Program.Ensures.bind require_assures (fun _ state _ => ?_) fun _ _ _ => trivial
  refine Program.Ensures.bind (assures_reads (Dashboard.checkRole_reads _) fun _ _ _ => trivial)
    (fun role state (_ : True) => ?_) fun _ _ _ => trivial
  refine Program.Ensures.bind
    (assures_reads ((getUser_reads _).orNotFound _) fun _ _ _ => trivial)
    (fun _ state (_ : True) => ?_) fun _ _ _ => trivial
  refine Program.Ensures.bind
    (assures_reads ((getOrg_reads _).orNotFound _) fun _ _ _ => trivial)
    (fun _ state (_ : True) => ?_) fun _ _ _ => trivial
  exact Program.Ensures.mono (fun _ _ _ => trivial) (addMembership_assures _ _ _ _)

theorem updateSysadmin_assures {userId : UserId} {sysadmin : Bool} {now : Int} :
    Assures (.updateSysadmin session userId sysadmin now)
      (Dashboard.updateSysadmin session userId sysadmin now) (fun _ _ => True) table := by
  unfold Dashboard.updateSysadmin
  refine Program.Ensures.bind getPrincipal_assures (fun principal state _ => ?_) fun _ _ _ => trivial
  dsimp only
  split
  · trivial
  refine Program.Ensures.bind
    (assures_reads ((getUser_reads _).orNotFound _) fun _ _ _ => trivial)
    (fun target state (_ : True) => ?_) fun _ _ _ => trivial
  have reports : ∀ email after, Assures (.updateSysadmin session userId sysadmin now) (do
      let holds ← isSysadmin userId
      return { userId, email, sysadmin := holds } : TableProgram Dashboard.SysadminState)
        (fun _ _ => True) after :=
    fun email after => assures_reads
      (Program.All.bind (isSysadmin_reads _) fun _ => writesIn_pure _) fun _ _ _ => trivial
  cases sysadmin with
  | true =>
      refine Program.Ensures.bind findSystemOrg_assures (fun found state ends => ?_)
        fun _ _ _ => trivial
      cases found with
      | none => trivial
      | some org =>
          have roles := (@roleOf_assures (.updateSysadmin session userId true now) state userId
            org.orgId).reached Grows.trans (Grows.refl state)
          refine Program.Ensures.bind roles (fun role after member => ?_) fun _ _ _ => trivial
          cases role with
          | none => trivial
          | some role =>
              exact Program.Ensures.bind
                (grantSysadmin_assures (member.2.systems _ (ends org rfl)) (member.1 role rfl))
                (fun _ _ _ => reports _ _) fun _ _ _ => trivial
  | false =>
      refine Program.Ensures.bind (assures_reads listUsers_reads fun _ _ _ => trivial)
        (fun users state (_ : True) => ?_) fun _ _ _ => trivial
      refine Program.Ensures.bind
        (assures_reads (Dashboard.countSysadmins_reads _ _) fun _ _ _ => trivial)
        (fun remaining state (_ : True) => ?_) fun _ _ _ => trivial
      split
      · trivial
      · refine Program.Ensures.perform_bind fun later _ sound _ => ?_
        obtain ⟨soundAfter, grows⟩ := advances_revoke sound userId
        exact ⟨soundAfter, grows, reports _ _⟩

end Endpoints

/-! ### Runs -/

/-- Bootstraps, and the administration of organisations, roles and flags; the
table answers every operation. -/
def Listed : PoolEvent CallError AdminRequest → Prop
  | .start (.createUser _ _ _ _) => False
  | .start (.deleteUser _ _) => False
  | .start _ => True
  | .advance _ raised => raised = none

instance : DecidablePred Listed
  | .start (.createUser _ _ _ _) => inferInstanceAs (Decidable False)
  | .start (.deleteUser _ _) => inferInstanceAs (Decidable False)
  | .start (.bootstrap _) => inferInstanceAs (Decidable True)
  | .start (.createOrg _ _ _ _) => inferInstanceAs (Decidable True)
  | .start (.updateOrg _ _ _ _) => inferInstanceAs (Decidable True)
  | .start (.deleteOrg _ _) => inferInstanceAs (Decidable True)
  | .start (.updateUserRole _ _ _ _ _) => inferInstanceAs (Decidable True)
  | .start (.updateSysadmin _ _ _ _) => inferInstanceAs (Decidable True)
  | .advance _ raised => inferInstanceAs (Decidable (raised = none))

/-- The operation that comes next does not break the system organisation. -/
def Guarded (pool : AdminPool) (event : PoolEvent CallError AdminRequest) : Prop :=
  match Pool.next? pool event with
  | none => True
  | some (request, op, _) => Allowed request op pool.state

def isBootstrap : AdminRequest → Bool
  | .bootstrap _ => true
  | _ => false

/-- Once a bootstrap has completed, the system organisation is one. -/
def SingletonKept (pool : AdminPool) : Prop :=
  pool.Returned isBootstrap → Singleton pool.state

/-- What is known where a request ends. -/
def Ends (request : AdminRequest) (outcome : Except CallError Unit) (table : Table) : Prop :=
  isBootstrap request = true → (∃ value, outcome = .ok value) → ∃ orgId, IsSystem table orgId

theorem program_assures (deploy : Deploy) {request : AdminRequest} (listed : Listed (.start request))
    (table : Table) : Assures request (request.program deploy) (Ends request) table := by
  cases request with
  | bootstrap draw =>
      refine Program.Ensures.bind bootstrap_assures (fun report state system _ _ => ?_)
        fun _ _ _ _ ⟨_, returned⟩ => nomatch returned
      exact system ⟨report, rfl⟩
  | createOrg session name orgId now =>
      exact Program.Ensures.bind createOrg_endpoint_assures (fun _ _ _ => nofun) fun _ _ _ => nofun
  | updateOrg session orgId body now =>
      exact Program.Ensures.bind updateOrg_assures (fun _ _ _ => nofun) fun _ _ _ => nofun
  | deleteOrg session orgId => exact Program.Ensures.mono (fun _ _ _ => nofun) deleteOrg_assures
  | createUser session body cognito draw => exact listed.elim
  | updateUserRole session userId role orgId now =>
      exact Program.Ensures.bind updateUserRole_assures (fun _ _ _ => nofun) fun _ _ _ => nofun
  | deleteUser session userId => exact listed.elim
  | updateSysadmin session userId sysadmin now =>
      exact Program.Ensures.bind updateSysadmin_assures (fun _ _ _ => nofun) fun _ _ _ => nofun

/-- The table is sound, and every request under way keeps its part. -/
def Assured (pool : AdminPool) : Prop :=
  pool.Ensured TableOp.apply Sound Grows (fun request table op => Allowed request op table) Ends

theorem assured_step {deploy : Deploy} {pool : AdminPool}
    {event : PoolEvent CallError AdminRequest} (assured : Assured pool) (listed : Listed event)
    (guarded : Guarded pool event) : Assured (AdminPool.step deploy pool event) := by
  have stable : ∀ request outcome first second, Grows first second → Ends request outcome first →
      Ends request outcome second := by
    intro request outcome first second grows ends bootstrap returned
    obtain ⟨orgId, system⟩ := ends bootstrap returned
    exact ⟨orgId, grows.systems orgId system⟩
  refine Pool.Ensured.step Grows.trans Grows.refl stable assured (fun request starts => ?_)
    fun request op raised performs => ⟨?_, ?_⟩
  · subst starts
    exact program_assures deploy listed _
  · cases event with
    | start request => cases performs
    | advance thread raisedHere =>
        unfold Pool.next? at performs
        dsimp only at performs
        split at performs
        next =>
          cases performs
          exact listed
        next => cases performs
  · unfold Guarded at guarded
    rw [performs] at guarded
    exact guarded

theorem singletonKept_of_assured {pool : AdminPool} (assured : Assured pool) :
    SingletonKept pool := by
  rintro ⟨⟨request, program⟩, member, bootstrap, returned⟩
  obtain ⟨sound, threads⟩ := assured
  have ensures := threads _ member
  cases program with
  | call op next => cases returned
  | done outcome =>
      cases outcome with
      | error error => cases returned
      | ok value =>
          obtain ⟨orgId, system⟩ := ensures bootstrap ⟨value, rfl⟩
          refine ⟨orgId, system, fun other otherSystem => sound.unique _ _ otherSystem system,
            fun userId flag => ?_⟩
          obtain ⟨home, homeSystem, memberThere⟩ := sound.members userId flag
          rw [sound.unique orgId home system homeSystem]
          exact memberThere

/-- In every run whose operations are guarded, the system organisation is one
from the first completed bootstrap on, and the holders of the flag are its
members. -/
theorem always_singletonKept (deploy : Deploy) {events : List (PoolEvent CallError AdminRequest)}
    (listed : ∀ event ∈ events, Listed event)
    (guarded : EachStep (AdminPool.step deploy) Guarded { state := Dict.empty } events) :
    Always (AdminPool.step deploy) SingletonKept { state := Dict.empty } events := by
  have assured : Always (AdminPool.step deploy) Assured { state := Dict.empty } events :=
    always_of_eachStep (AdminPool.step deploy)
      (fun _ _ assured ok => assured_step assured ok.1 ok.2) ⟨sound_empty, nofun⟩
      ((eachStep_of_forall _ _ listed).and _ guarded)
  exact assured.mono _ fun _ => singletonKept_of_assured

instance : (request : AdminRequest) → (op : TableOp) → (table : Table) →
    Decidable (Allowed request op table)
  | .deleteOrg _ orgId, .deleteItem _, table => inferInstanceAs (Decidable (¬ IsSystem table orgId))
  | .bootstrap draw, .putNew pk _, table =>
      inferInstanceAs (Decidable (pk = orgPk draw.orgId → table.getItem pk = none → NoSystem table))
  | .deleteOrg _ _, .getItem _, _ => isTrue trivial
  | .deleteOrg _ _, .scanPrefix _, _ => isTrue trivial
  | .deleteOrg _ _, .putItem _ _, _ => isTrue trivial
  | .deleteOrg _ _, .putNew _ _, _ => isTrue trivial
  | .deleteOrg _ _, .updateItem _ _, _ => isTrue trivial
  | .deleteOrg _ _, .updateWhere _ _ _ _, _ => isTrue trivial
  | .bootstrap _, .getItem _, _ => isTrue trivial
  | .bootstrap _, .scanPrefix _, _ => isTrue trivial
  | .bootstrap _, .putItem _ _, _ => isTrue trivial
  | .bootstrap _, .updateItem _ _, _ => isTrue trivial
  | .bootstrap _, .updateWhere _ _ _ _, _ => isTrue trivial
  | .bootstrap _, .deleteItem _, _ => isTrue trivial
  | .createOrg _ _ _ _, _, _ => isTrue trivial
  | .updateOrg _ _ _ _, _, _ => isTrue trivial
  | .createUser _ _ _ _, _, _ => isTrue trivial
  | .updateUserRole _ _ _ _ _, _, _ => isTrue trivial
  | .deleteUser _ _, _, _ => isTrue trivial
  | .updateSysadmin _ _ _ _, _, _ => isTrue trivial

instance (pool : AdminPool) (event : PoolEvent CallError AdminRequest) :
    Decidable (Guarded pool event) :=
  match performs : Pool.next? pool event with
  | none => isTrue (by unfold Guarded; rw [performs]; trivial)
  | some (request, op, raised) =>
      decidable_of_iff (Allowed request op pool.state) (by unfold Guarded; rw [performs])

/-- A bootstrap on an empty table, then a customer organisation. -/
def firstOrg : List (PoolEvent CallError AdminRequest) :=
  .start (.bootstrap ⟨"org", "user", 0, 0, 0, 0⟩) :: List.replicate 11 (.advance 0 none) ++
    .start (.createOrg (some ⟨"user"⟩) "Acme" "acme" 1) :: List.replicate 4 (.advance 1 none)

theorem always_singletonKept_firstOrg :
    Always (AdminPool.step { normalize := id }) SingletonKept { state := Dict.empty } firstOrg :=
  always_singletonKept { normalize := id } (by decide +kernel) (by decide +kernel)

/-- After a bootstrap, superwoman deletes the system organisation. -/
def systemOrgDeleted : List (PoolEvent CallError AdminRequest) :=
  .start (.bootstrap ⟨"org", "user", 0, 0, 0, 0⟩) :: List.replicate 11 (.advance 0 none) ++
    .start (.deleteOrg (some ⟨"user"⟩) "org") :: List.replicate 4 (.advance 1 none)

theorem not_always_singletonKept_systemOrgDeleted :
    (∀ event ∈ systemOrgDeleted, Listed event) ∧
      ¬ Always (AdminPool.step { normalize := id }) SingletonKept { state := Dict.empty }
        systemOrgDeleted := by
  refine ⟨by decide +kernel, fun always => ?_⟩
  obtain ⟨orgId, system, -⟩ := always.final _ (by decide +kernel)
  have gone : NoSystem (Foundation.run (AdminPool.step { normalize := id })
      { state := Dict.empty } systemOrgDeleted).state := by decide +kernel
  exact gone.not_isSystem orgId system

end SystemOrg

end TradingStrands
