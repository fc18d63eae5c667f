import TradingStrands.Foundation.OwnedKeys
import TradingStrands.Foundation.Runs
import TradingStrands.LedgerStore.Store
import TradingStrands.OrgTools.Store
import TradingStrands.RecommendationsStore.Store
import TradingStrands.SkillsStore.Store
import TradingStrands.StrategiesStore.Store
import Mathlib.Data.List.TakeWhile

/-!
Owns the one table that all stores share, seen by the prefix scans. Seven families
of rows are scanned for an owner. The table represents one map a family from
owners and rests to records, whatever calls of the stores filled it, and a scan
returns the records of the owner in its family.

Two of the readers return the newest of their rows, up to a limit.
-/

namespace TradingStrands.KeySpace

open TradingStrands.Foundation TableProgram

/-! ### Families -/

/-- The families that are scanned for an owner. -/
inductive Family
  | userOrg
  | orgUser
  | acl
  | skill
  | orgTool
  | recommendation
  | ledgerEvent
deriving DecidableEq, Repr

/-- One entry of a bot's audit log. -/
structure LedgerEvent where
  botId : BotId
  eventType : String
  ts : Nat
  ttl : Nat
  fill : Fill

namespace Family

def all : List Family :=
  [.userOrg, .orgUser, .acl, .skill, .orgTool, .recommendation, .ledgerEvent]

theorem mem_all (family : Family) : family ∈ all := by
  cases family <;> decide

def name : Family → String
  | .userOrg => "USERORG"
  | .orgUser => "ORGUSER"
  | .acl => "STRATEGYACL"
  | .skill => "SKILL"
  | .orgTool => "ORG_TOOL"
  | .recommendation => "RECOMMENDATION"
  | .ledgerEvent => "LEDGER_EVENT"

abbrev Row : Family → Type
  | .userOrg => Membership
  | .orgUser => Membership
  | .acl => StrategyStore.StrategyAcl
  | .skill => SkillsStore.Skill
  | .orgTool => OrgToolConfig
  | .recommendation => RecommendationEntry
  | .ledgerEvent => LedgerEvent

def membershipRow (membership : Membership) : Item :=
  TenancyStore.membershipItem membership.userId membership.orgId membership.role
    membership.createdAt

def eventRow (event : LedgerEvent) : Item :=
  [("bot_id", .text event.botId), ("event_type", .text event.eventType), ("ts", .number event.ts),
    ("ttl", .number event.ttl), ("fill_json", .fillJson event.fill)]

def item : (family : Family) → family.Row → Item
  | .userOrg => membershipRow
  | .orgUser => membershipRow
  | .acl => StrategyStore.StrategyAcl.modelDump
  | .skill => SkillsStore.Skill.item
  | .orgTool => OrgToolConfig.item
  | .recommendation => RecommendationsStore.item
  | .ledgerEvent => eventRow

end Family

def layout : Layout Family '#' Item where
  mark := "#"
  isMark := by decide
  name := Family.name
  free := by
    intro family
    cases family <;> decide
  distinct := by
    have apart : ∀ left ∈ Family.all, ∀ right ∈ Family.all, left.name = right.name →
        left = right := by decide
    exact fun left right => apart left left.mem_all right right.mem_all
  Row := Family.Row
  item := Family.item

/-- The families of the other stores. -/
def otherFamilies : List String :=
  ["ORG", "USER", "USEREMAIL", "SYSADMIN", "STRATEGY", "STRATEGYPROPOSAL", "LEDGER", "MARKETDATA",
    "TOKEN", "TOKENEVENT", "TOOL_QUOTA", "PROMPTSNAPSHOT", "FILING_INDEX", "NEWS", "SOCIAL",
    "TA_SNAPSHOT", "CALENDAR", "HEARTBEAT", "HALT_EVENT", "EVENT", "CONTROL", "SNAPSHOT"]

/-- A key of another store: one of its families, alone or with a rest. -/
structure OtherKey where
  family : String
  known : family ∈ otherFamilies
  rest : Option String

def OtherKey.pk (key : OtherKey) : String :=
  match key.rest with
  | none => key.family
  | some rest => key.family ++ "#" ++ rest

/-! ### Calls -/

/-- A call of a store that writes. Of the other stores only what they leave under
a key matters. -/
inductive Call
  | addMembership (userId orgId : PlainId '#') (role : Role) (now : Int)
  | removeMembership (userId orgId : PlainId '#')
  | addAcl (strategyId userId : PlainId '#') (grantedBy : UserId) (now : Int)
  | removeAcl (strategyId userId : PlainId '#')
  | deleteStrategy (strategyId : PlainId '#')
  | putSkill (repr : String → String) (orgId : PlainId '#') (skillName markdown : String)
      (authorUserId : UserId) (now : Int)
  | deleteSkill (orgId : PlainId '#') (skillName : String)
  | setEnabled (orgId : PlainId '#') (toolName : String) (enabled : Bool) (updatedBy : UserId)
      (now : Int)
  | appendRecommendation (orgId : PlainId '#') (advisory : RecommendationsStore.Append)
      (ofOrg : advisory.orgId = orgId.text)
  | appendEvent (store : LedgerStore) (botId : PlainId '#') (fill : Fill) (ts : Nat)
      (suffix eventType : String)
  | elsewhere (key : OtherKey) (row : Option Item)

/-- The table after a call. -/
def write (table : Table) : Call → Table
  | .addMembership userId orgId role now =>
      (runAlone (TenancyStore.addMembership userId.text orgId.text role now) table).2
  | .removeMembership userId orgId =>
      (runAlone (TenancyStore.removeMembership userId.text orgId.text) table).2
  | .addAcl strategyId userId grantedBy now =>
      (runAlone (StrategyStore.addAcl strategyId.text userId.text grantedBy now) table).2
  | .removeAcl strategyId userId =>
      (runAlone (StrategyStore.removeAcl strategyId.text userId.text) table).2
  | .deleteStrategy strategyId => (runAlone (StrategyStore.delete strategyId.text) table).2
  | .putSkill repr orgId skillName markdown authorUserId now =>
      (runAlone (SkillsStore.put repr orgId.text skillName markdown authorUserId now) table).2
  | .deleteSkill orgId skillName => (runAlone (SkillsStore.delete orgId.text skillName) table).2
  | .setEnabled orgId toolName enabled updatedBy now =>
      OrgToolsStore.setEnabled table orgId.text toolName enabled updatedBy now
  | .appendRecommendation _ advisory _ =>
      ((RecommendationsStore.append table advisory).toOption.map Prod.snd).getD table
  | .appendEvent store botId fill ts suffix eventType =>
      store.appendEvent table botId.text fill ts suffix eventType
  | .elsewhere key (some row) => table.putItem key.pk row
  | .elsewhere key none => table.deleteItem key.pk

/-- What a call is for, record by record. -/
def record (contents : layout.Contents) : Call → layout.Contents
  | .addMembership userId orgId role now =>
      let membership : Membership :=
        { userId := userId.text, orgId := orgId.text, role, createdAt := now }
      Layout.file (Layout.file contents .userOrg (userId, orgId.text) membership)
        .orgUser (orgId, userId.text) membership
  | .removeMembership userId orgId =>
      Layout.remove (Layout.remove contents .userOrg (userId, orgId.text))
        .orgUser (orgId, userId.text)
  | .addAcl strategyId userId grantedBy now =>
      Layout.file contents .acl (strategyId, userId.text)
        { strategyId := strategyId.text, userId := userId.text, grantedBy, createdAt := now }
  | .removeAcl strategyId userId => Layout.remove contents .acl (strategyId, userId.text)
  | .deleteStrategy strategyId => Layout.removeOwned contents .acl strategyId
  | .putSkill _ orgId skillName markdown authorUserId now =>
      if SkillsStore.maxSkillBytes < markdown.utf8ByteSize then contents
      else
        let existing : Option SkillsStore.Skill := (contents .skill).get? (orgId, skillName)
        Layout.file contents .skill (orgId, skillName)
          { orgId := orgId.text, skillName, markdown, authorUserId
            createdAt := (existing.map SkillsStore.Skill.createdAt).getD now, updatedAt := now }
  | .deleteSkill orgId skillName => Layout.remove contents .skill (orgId, skillName)
  | .setEnabled orgId toolName enabled updatedBy now =>
      Layout.file contents .orgTool (orgId, toolName)
        { orgId := orgId.text, toolName, enabled, updatedBy, updatedAt := now }
  | .appendRecommendation orgId advisory _ =>
      match advisory.entry with
      | .error _ => contents
      | .ok entry => Layout.file contents .recommendation
          (orgId, toString advisory.timestamp ++ "#" ++ advisory.agentType) entry
  | .appendEvent store botId fill ts suffix eventType =>
      Layout.file contents .ledgerEvent (botId, LedgerStore.eventId ts suffix)
        { botId := botId.text, eventType, ts, ttl := ts + store.eventRetentionDays * 86400, fill }
  | .elsewhere _ _ => contents

/-! ### The table represents the records -/

theorem OtherKey.elsewhere (key : OtherKey) : layout.Elsewhere key.pk := by
  intro family
  have leads : familyOf '#' key.pk = key.family.toList := by
    obtain ⟨family, known, rest⟩ := key
    have free : ∀ family ∈ otherFamilies, FreeOf '#' family := by decide
    cases rest with
    | none =>
        refine List.takeWhile_eq_self_iff.mpr fun char member => decide_eq_true ?_
        rintro rfl
        exact free family known member
    | some rest => exact familyOf_append (by decide) (free family known)
  have apart : ∀ other ∈ otherFamilies, ∀ family ∈ Family.all,
      other.toList ≠ family.name.toList := by decide
  unfold Layout.inFamily
  rw [leads]
  exact decide_eq_false (apart key.family key.known family family.mem_all)

theorem key_orgTool (orgId : PlainId '#') (toolName : String) :
    OrgToolsStore.pk orgId.text toolName = layout.key .orgTool (orgId, toolName) := by
  have whole : OrgToolsStore.pkPrefix = "ORG_TOOL" ++ "#" := by decide
  unfold OrgToolsStore.pk Layout.key
  rw [whole]
  simp only [String.append_assoc]
  rfl

theorem key_recommendation (orgId : PlainId '#') (createdAt : Int) (agentType : String) :
    RecommendationsStore.pk orgId.text createdAt agentType =
      layout.key .recommendation (orgId, toString createdAt ++ "#" ++ agentType) := by
  unfold RecommendationsStore.pk RecommendationsStore.pkPrefix Layout.key
  simp only [String.append_assoc]
  rfl

theorem key_ledgerEvent (botId : PlainId '#') (ts : Nat) (suffix : String) :
    LedgerStore.eventPk botId.text ts suffix =
      layout.key .ledgerEvent (botId, LedgerStore.eventId ts suffix) := by
  have whole : "LEDGER_EVENT#" = "LEDGER_EVENT" ++ "#" := by decide
  unfold LedgerStore.eventPk Layout.key
  rw [whole]
  simp only [String.append_assoc]
  rfl

section Steps

variable {table : Table} {contents : layout.Contents}

/-- A call writes to the table what it is for. -/
theorem represents_step (represents : layout.Represents table contents) (call : Call) :
    layout.Represents (write table call) (record contents call) := by
  cases call with
  | addMembership userId orgId role now =>
      let membership : Membership :=
        { userId := userId.text, orgId := orgId.text, role, createdAt := now }
      exact (represents.file .userOrg (userId, orgId.text) membership).file .orgUser
        (orgId, userId.text) membership
  | removeMembership userId orgId =>
      exact (represents.remove .userOrg (userId, orgId.text)).remove .orgUser (orgId, userId.text)
  | addAcl strategyId userId grantedBy now =>
      exact represents.file .acl (strategyId, userId.text) _
  | removeAcl strategyId userId => exact represents.remove .acl (strategyId, userId.text)
  | deleteStrategy strategyId =>
      let key : OtherKey := ⟨"STRATEGY", by decide, some strategyId.text⟩
      have deleted : write table (.deleteStrategy strategyId) =
          (((table.deleteItem key.pk).scanPrefix (layout.lead .acl strategyId)).map Prod.fst).foldl
            Dict.erase (table.deleteItem key.pk) :=
        StrategyStore.table_of_deleteItems _ _
      rw [deleted]
      exact (represents.eraseElsewhere key.elsewhere).removeOwned .acl strategyId
  | putSkill repr orgId skillName markdown authorUserId now =>
      have stored := represents.lookup .skill (orgId, skillName)
      change layout.Represents (runAlone (SkillsStore.put _ _ _ _ _ _) table).2 _
      rw [SkillsStore.table_of_put]
      unfold record
      dsimp only
      split
      · exact represents
      · have found : SkillsStore.createdAt (table.getItem (SkillsStore.pk orgId.text skillName)) now =
            .ok ((((contents .skill).get? (orgId, skillName)).map
              SkillsStore.Skill.createdAt).getD now) := by
          change SkillsStore.createdAt (Dict.get? table (layout.key .skill (orgId, skillName))) now = _
          rw [stored]
          cases (contents .skill).get? (orgId, skillName) <;> rfl
        rw [found]
        exact represents.file .skill (orgId, skillName) _
  | deleteSkill orgId skillName => exact represents.remove .skill (orgId, skillName)
  | setEnabled orgId toolName enabled updatedBy now =>
      change layout.Represents (OrgToolsStore.setEnabled table _ _ _ _ _) _
      rw [OrgToolsStore.setEnabled_eq, key_orgTool]
      exact represents.file .orgTool (orgId, toolName)
        { orgId := orgId.text, toolName, enabled, updatedBy, updatedAt := now }
  | appendRecommendation orgId advisory ofOrg =>
      change layout.Represents
        (((RecommendationsStore.append table advisory).toOption.map Prod.snd).getD table)
        (match advisory.entry with
          | .error _ => contents
          | .ok entry => Layout.file contents .recommendation
              (orgId, toString advisory.timestamp ++ "#" ++ advisory.agentType) entry)
      unfold RecommendationsStore.append
      cases advisory.entry with
      | error error => exact represents
      | ok entry =>
          change layout.Represents (table.putItem advisory.pk (RecommendationsStore.item entry)) _
          unfold RecommendationsStore.Append.pk
          rw [ofOrg, key_recommendation]
          exact represents.file .recommendation _ entry
  | appendEvent store botId fill ts suffix eventType =>
      change layout.Represents (table.putItem (LedgerStore.eventPk _ _ _) _) _
      rw [key_ledgerEvent]
      exact represents.file .ledgerEvent _ { botId := botId.text, eventType, ts, ttl := _, fill }
  | elsewhere key row =>
      cases row with
      | none => exact represents.eraseElsewhere key.elsewhere
      | some row => exact represents.setElsewhere key.elsewhere row

theorem represents_run (calls : List Call) :
    layout.Represents (run write Dict.empty calls) (run record layout.noRows calls) := by
  have keeps : ∀ (table : Table) (contents : layout.Contents) (call : Call),
      layout.Represents table contents →
        layout.Represents (write table call) (record contents call) :=
    fun _ _ call represents => represents_step represents call
  exact run_related write keeps Layout.represents_noRows calls

end Steps

/-! ### The scans -/

section Scans

variable {table : Table} {contents : layout.Contents}

theorem toMembership_membershipRow (membership : Membership) :
    toMembership (Family.membershipRow membership) = .ok membership := by
  obtain ⟨_, _, role, _⟩ := membership
  cases role <;> rfl

theorem membershipsForUser_eq (represents : layout.Represents table contents)
    (owner : PlainId '#') : (runAlone (TenancyStore.membershipsForUser owner.text) table).1 =
      .ok (Layout.records contents .userOrg owner) := by
  have inverse : ∀ row, toMembership (layout.item .userOrg row) = .ok row :=
    toMembership_membershipRow
  exact represents.read_scan inverse owner

theorem membershipsForOrg_eq (represents : layout.Represents table contents)
    (owner : PlainId '#') : (runAlone (TenancyStore.membershipsForOrg owner.text) table).1 =
      .ok (Layout.records contents .orgUser owner) := by
  have inverse : ∀ row, toMembership (layout.item .orgUser row) = .ok row :=
    toMembership_membershipRow
  exact represents.read_scan inverse owner

theorem reduceOption_userIds (acls : List StrategyStore.StrategyAcl) :
    (acls.map fun acl => some acl.userId).reduceOption = acls.map StrategyStore.StrategyAcl.userId := by
  unfold List.reduceOption
  rw [List.filterMap_map]
  exact congrFun List.filterMap_eq_map acls

theorem aclUsers_eq (represents : layout.Represents table contents) (owner : PlainId '#') :
    (runAlone (StrategyStore.aclUsers owner.text) table).1 =
      .ok ((Layout.records contents .acl owner).map StrategyStore.StrategyAcl.userId).toFinset := by
  have rows : (table.scanPrefix (StrategyStore.aclPrefix owner.text)).mapM
      (fun row => StrategyStore.aclUser row.2) =
        .ok ((Layout.records contents .acl owner).map fun acl =>
          some (StrategyStore.StrategyAcl.userId acl)) := by
    rw [show table.scanPrefix (StrategyStore.aclPrefix owner.text) =
      (Layout.ownedBy contents .acl owner).map (layout.encode .acl) from represents.scan .acl owner]
    unfold Layout.records
    induction Layout.ownedBy contents .acl owner with
    | nil => rfl
    | cons entry rest inductionHypothesis =>
        rw [List.map_cons, mapM_cons_ok_iff]
        exact ⟨_, _, rfl, inductionHypothesis, rfl⟩
  unfold StrategyStore.aclUsers
  rw [runAlone_bind, runAlone_scanPrefix]
  dsimp only
  rw [runAlone_bind, runAlone_parsed, rows]
  dsimp only
  rw [runAlone_pure]
  exact congrArg (fun ids : List String => Except.ok ids.toFinset)
    (reduceOption_userIds (Layout.records contents .acl owner))

theorem skills_eq (represents : layout.Represents table contents) (owner : PlainId '#') :
    (runAlone (SkillsStore.listForOrg owner.text) table).1 =
      .ok (oldestFirst SkillsStore.Skill.skillName (Layout.records contents .skill owner)) := by
  have inverse : ∀ row, SkillsStore.Skill.ofItem (layout.item .skill row) = .ok row := fun _ => rfl
  have named : ∀ row : layout.Row .skill,
      SkillsStore.nameOf (layout.item .skill row) = SkillsStore.Skill.skillName row := fun _ => rfl
  exact represents.read_sorted inverse named owner

theorem orgTools_eq (represents : layout.Represents table contents) (owner : PlainId '#') :
    (runAlone (OrgToolsStore.listForOrg owner.text) table).1 =
      .ok (oldestFirst OrgToolConfig.toolName (Layout.records contents .orgTool owner)) := by
  have inverse : ∀ row, OrgToolConfig.ofItem (layout.item .orgTool row) = .ok row := fun _ => rfl
  have named : ∀ row : layout.Row .orgTool,
      OrgToolsStore.nameOf (layout.item .orgTool row) = OrgToolConfig.toolName row := fun _ => rfl
  have lead : OrgToolsStore.orgPrefix owner.text = layout.lead .orgTool owner := by
    have whole : OrgToolsStore.pkPrefix = "ORG_TOOL" ++ "#" := by decide
    unfold OrgToolsStore.orgPrefix Layout.lead
    rw [whole, String.append_assoc]
    rfl
  unfold OrgToolsStore.listForOrg
  rw [lead]
  exact represents.read_sorted inverse named owner

theorem recommendations_eq (represents : layout.Represents table contents) (owner : PlainId '#')
    (limit : Nat) : (runAlone (RecommendationsStore.listForOrg owner.text limit) table).1 =
      .ok (newest RecommendationEntry.createdAt limit
        (Layout.records contents .recommendation owner)) := by
  have inverse : ∀ row, RecommendationsStore.modelValidate (layout.item .recommendation row) =
      .ok row := RecommendationsStore.modelValidate_item
  have read := represents.read_scan inverse owner
  unfold RecommendationsStore.listForOrg
  rw [runAlone_bind, runAlone_scanPrefix]
  dsimp only
  rw [runAlone_bind, runAlone_parsed]
  have rows : (table.scanPrefix (RecommendationsStore.orgPrefix owner.text)).mapM
      (fun row => RecommendationsStore.modelValidate row.2) =
        .ok (Layout.records contents .recommendation owner) := read
  rw [rows]
  rfl

theorem events_eq (represents : layout.Represents table contents) (owner : PlainId '#')
    (limit : Nat) : LedgerStore.eventsForBot table owner.text limit =
      newest LedgerStore.eventKey limit
        ((Layout.ownedBy contents .ledgerEvent owner).map (layout.encode .ledgerEvent)) := by
  have lead : LedgerStore.eventPrefix owner.text = layout.lead .ledgerEvent owner := by
    have whole : "LEDGER_EVENT#" = "LEDGER_EVENT" ++ "#" := by decide
    unfold LedgerStore.eventPrefix Layout.lead
    rw [whole, String.append_assoc]
    rfl
  unfold LedgerStore.eventsForBot LedgerStore.eventRows
  rw [lead, show table.scanPrefix (layout.lead .ledgerEvent owner) = _ from
    represents.scan .ledgerEvent owner]
  rfl

end Scans

/-- Whatever calls filled the table, each scan for an id returns the records that
calls for this id left in its own family, and the two that have a limit the newest
of them. -/
theorem scans_isolated (calls : List Call) (owner : PlainId '#') :
    let table := run write Dict.empty calls
    let contents := run record layout.noRows calls
    (runAlone (TenancyStore.membershipsForUser owner.text) table).1 =
        .ok (Layout.records contents .userOrg owner) ∧
      (runAlone (TenancyStore.membershipsForOrg owner.text) table).1 =
        .ok (Layout.records contents .orgUser owner) ∧
      (runAlone (StrategyStore.aclUsers owner.text) table).1 =
        .ok ((Layout.records contents .acl owner).map
          StrategyStore.StrategyAcl.userId).toFinset ∧
      (runAlone (SkillsStore.listForOrg owner.text) table).1 =
        .ok (oldestFirst SkillsStore.Skill.skillName (Layout.records contents .skill owner)) ∧
      (runAlone (OrgToolsStore.listForOrg owner.text) table).1 =
        .ok (oldestFirst OrgToolConfig.toolName (Layout.records contents .orgTool owner)) ∧
      (∀ limit, (runAlone (RecommendationsStore.listForOrg owner.text limit) table).1 =
        .ok (newest RecommendationEntry.createdAt limit
          (Layout.records contents .recommendation owner))) ∧
      ∀ limit, LedgerStore.eventsForBot table owner.text limit =
        newest LedgerStore.eventKey limit
          ((Layout.ownedBy contents .ledgerEvent owner).map (layout.encode .ledgerEvent)) := by
  have represents := represents_run calls
  exact ⟨membershipsForUser_eq represents owner, membershipsForOrg_eq represents owner,
    aclUsers_eq represents owner, skills_eq represents owner, orgTools_eq represents owner,
    recommendations_eq represents owner, events_eq represents owner⟩

def organisation : PlainId '#' := { text := "org", free := by decide }

/-- An advisory a second for one organisation. -/
def advisories (count : Nat) : List Call :=
  (List.range count).map fun second =>
    .appendRecommendation organisation
      { orgId := "org", agentType := "auditor", agentId := "auditor-1", severity := "info"
        summary := "checked", createdAt := some second, now := second } rfl

/-- The advisories that these calls leave for the organisation. -/
def advisoryRecords (count : Nat) : List RecommendationEntry :=
  Layout.records (run record layout.noRows (advisories count)) .recommendation organisation

/-- Of more advisories than the limit, not all are listed. -/
theorem not_all_listed :
    ¬ ∃ entries, (runAlone (RecommendationsStore.listForOrg organisation.text)
        (run write Dict.empty (advisories 51))).1 = .ok entries ∧
      entries.Perm (advisoryRecords 51) := by
  intro ⟨entries, listed, all⟩
  have read : (runAlone (RecommendationsStore.listForOrg organisation.text)
      (run write Dict.empty (advisories 51))).1 =
        .ok (newest RecommendationEntry.createdAt 50 (advisoryRecords 51)) :=
    recommendations_eq (represents_run (advisories 51)) organisation 50
  have limited : entries.length ≤ 50 := by
    rw [Except.ok.inj (listed.symm.trans read)]
    exact List.length_take_le _ _
  have written : (advisoryRecords 51).length = 51 := by decide +kernel
  rw [all.length_eq, written] at limited
  omega

end TradingStrands.KeySpace
