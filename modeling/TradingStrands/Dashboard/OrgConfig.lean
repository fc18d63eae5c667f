import TradingStrands.Authz.Isolation
import TradingStrands.Bootstrap.Recovery
import TradingStrands.Dashboard.Admin
import TradingStrands.OrgTools.Store
import TradingStrands.SkillsStore.Store

/-!
Owns the writes of an organisation's configuration: the availability of tools and
the skills. Their endpoints test the role of the caller themselves. The bar they
name is that of the Alpaca credentials, which the policy gives to the
organisation's administrators alone; the test lets every sysadmin pass as well.

Does not own: the validators of the bodies. The markdown of a skill has passed its
check before the endpoint is called, and nothing here depends on it.
-/

namespace TradingStrands

open TradingStrands.Foundation TableProgram

namespace Dashboard

/-- The role test of the endpoints, before `what` is done. -/
def requireOrgadmin (principal : Principal) (orgId : OrgId) (what : String) : TableProgram Unit :=
  let role := principal.memberships.get? orgId
  if principal.sysadmin = false ∧ role ≠ some .orgadmin then
    throw (.http ⟨403, what ++ " requires orgadmin of " ++ orgId⟩)
  else return ()

def setOrgTool (session : Option Session) (orgId : OrgId) (toolName : String) (enabled : Bool)
    (now : Int) : TableProgram OrgToolConfig := do
  let principal ← getPrincipal session
  requireOrgadmin principal orgId "org tool config"
  let config : OrgToolConfig :=
    { orgId, toolName, enabled, updatedBy := principal.userId, updatedAt := now }
  putItem (OrgToolsStore.pk orgId toolName) config.item
  return config

def putOrgSkill (repr : String → String) (session : Option Session) (orgId : OrgId)
    (skillName markdown : String) (now : Int) : TableProgram SkillsStore.Skill := do
  let principal ← getPrincipal session
  requireOrgadmin principal orgId "editing skills"
  match ← SkillsStore.put repr orgId skillName markdown principal.userId now with
  | .error message => throw (.http ⟨400, message⟩)
  | .ok skill => return skill

def deleteOrgSkill (session : Option Session) (orgId : OrgId) (skillName : String) :
    TableProgram Unit := do
  let principal ← getPrincipal session
  requireOrgadmin principal orgId "deleting skills"
  SkillsStore.delete orgId skillName

/-- The setting of a tool's availability writes what the store's `set_enabled` does. -/
theorem setOrgTool_setEnabled {session : Option Session} {table : Table} {principal : Principal}
    (caller : (runAlone (getPrincipal session) table).1 = .ok principal) {orgId : OrgId}
    (passes : principal.sysadmin = true ∨ principal.memberships.get? orgId = some .orgadmin)
    (toolName : String) (enabled : Bool) (now : Int) :
    (runAlone (setOrgTool session orgId toolName enabled now) table).2 =
      OrgToolsStore.setEnabled table orgId toolName enabled principal.userId now := by
  unfold setOrgTool requireOrgadmin
  rw [(getPrincipal_reads session).runAlone_bind, caller]
  dsimp only
  rw [if_neg (by rcases passes with passes | passes <;> simp [passes])]
  rfl

end Dashboard

/-! ### Requests -/

namespace OrgConfig

inductive Edit
  | setOrgTool (toolName : String) (enabled : Bool)
  | putOrgSkill (skillName markdown : String)
  | deleteOrgSkill (skillName : String)

structure Request where
  session : Option Session
  orgId : OrgId
  edit : Edit
  now : Int
  repr : String → String

/-- What a request runs; its response is not kept. -/
def Request.program (request : Request) : TableProgram Unit :=
  match request.edit with
  | .setOrgTool toolName enabled => do
      let _ ← Dashboard.setOrgTool request.session request.orgId toolName enabled request.now
  | .putOrgSkill skillName markdown => do
      let _ ← Dashboard.putOrgSkill request.repr request.session request.orgId skillName markdown
        request.now
  | .deleteOrgSkill skillName => Dashboard.deleteOrgSkill request.session request.orgId skillName

/-- Some row is not what it was before the request. -/
def Request.Changes (request : Request) (table : Table) : Prop :=
  ∃ pk, (runAlone request.program table).2.getItem pk ≠ table.getItem pk

/-- A request that changes a row comes from a principal whom the policy lets
update the Alpaca secret of the organisation, which is its administrator. -/
def Request.KeepsBar (deployFlag : Bool) (request : Request) (table : Table) : Prop :=
  request.Changes table → ∃ principal,
    (runAlone (Dashboard.getPrincipal request.session) table).1 = .ok principal ∧
      (Authz.can deployFlag principal .update
        { type := .alpacaSecret, orgId := some request.orgId }).allowed = true ∧
      Authz.isOrgadmin principal (some request.orgId) = true

/-- The edit would leave the table as it is: the row it writes is there already,
its body is refused, what it edits has no readable time of creation, or there is
nothing to delete. -/
def Edit.Idle (edit : Edit) (orgId : OrgId) (principal : Principal) (now : Int) (table : Table) :
    Prop :=
  match edit with
  | .setOrgTool toolName enabled => table.getItem (OrgToolsStore.pk orgId toolName) =
      some (OrgToolConfig.item
        { orgId, toolName, enabled, updatedBy := principal.userId, updatedAt := now })
  | .putOrgSkill skillName markdown =>
      SkillsStore.maxSkillBytes < markdown.utf8ByteSize ∨
        ∀ createdAt,
          SkillsStore.createdAt (table.getItem (SkillsStore.pk orgId skillName)) now =
            .ok createdAt →
          table.getItem (SkillsStore.pk orgId skillName) = some (SkillsStore.Skill.item
            { orgId, skillName, markdown, authorUserId := principal.userId, createdAt,
              updatedAt := now })
  | .deleteOrgSkill skillName => table.getItem (SkillsStore.pk orgId skillName) = none

/-- The request is not one by which a sysadmin who does not administer the
organisation would change something. -/
def Request.Proper (request : Request) (table : Table) : Prop :=
  ∀ principal, (runAlone (Dashboard.getPrincipal request.session) table).1 = .ok principal →
    principal.sysadmin = true → Authz.isOrgadmin principal (some request.orgId) = false →
      request.edit.Idle request.orgId principal request.now table

section Edits

variable {request : Request} {table : Table} {principal : Principal}

/-- A write under a key changes some row exactly if the row is another one. -/
theorem changes_putItem_iff (table : Table) (pk : String) (item : Item) :
    (∃ key, (table.putItem pk item).getItem key ≠ table.getItem key) ↔
      table.getItem pk ≠ some item := by
  constructor
  · rintro ⟨key, differs⟩ same
    rw [Table.getItem_putItem] at differs
    split at differs
    next here => exact differs (by rw [here, same])
    next => exact differs rfl
  · intro differs
    refine ⟨pk, ?_⟩
    rw [Table.getItem_putItem_self]
    exact Ne.symm differs

theorem changes_deleteItem_iff (table : Table) (pk : String) :
    (∃ key, (table.deleteItem pk).getItem key ≠ table.getItem key) ↔
      table.getItem pk ≠ none := by
  constructor
  · rintro ⟨key, differs⟩ gone
    rw [Table.getItem_deleteItem] at differs
    split at differs
    next here => exact differs (by rw [here, gone])
    next => exact differs rfl
  · intro differs
    refine ⟨pk, ?_⟩
    rw [Table.getItem_deleteItem_self]
    exact Ne.symm differs

/-- Whether the role test lets a principal pass. -/
def Passes (principal : Principal) (orgId : OrgId) : Prop :=
  principal.sysadmin = true ∨ principal.memberships.get? orgId = some .orgadmin

theorem requireOrgadmin_of_passes {orgId : OrgId} (passes : Passes principal orgId)
    (what : String) : Dashboard.requireOrgadmin principal orgId what = pure () := by
  unfold Dashboard.requireOrgadmin
  rw [if_neg]
  rintro ⟨plain, other⟩
  rcases passes with sysadmin | orgadmin
  · rw [plain] at sysadmin
    cases sysadmin
  · exact other orgadmin

theorem requireOrgadmin_of_not_passes {orgId : OrgId} (fails : ¬ Passes principal orgId)
    (what : String) : Dashboard.requireOrgadmin principal orgId what =
      throw (.http ⟨403, what ++ " requires orgadmin of " ++ orgId⟩) := by
  unfold Dashboard.requireOrgadmin
  unfold Passes at fails
  rw [if_pos]
  simpa using fails

/-- A caller who is not authenticated, or fails the role test, changes nothing. -/
theorem table_of_refused
    (refused : ∀ principal, (runAlone (Dashboard.getPrincipal request.session) table).1 =
      .ok principal → ¬ Passes principal request.orgId) :
    (runAlone request.program table).2 = table := by
  have stops : ∀ {α : Type} (what : String) (rest : Principal → TableProgram α),
      (runAlone (do
        let principal ← Dashboard.getPrincipal request.session
        Dashboard.requireOrgadmin principal request.orgId what
        rest principal) table).2 = table := by
    intro α what rest
    rw [(Dashboard.getPrincipal_reads _).runAlone_bind]
    cases caller : (runAlone (Dashboard.getPrincipal request.session) table).1 with
    | error error => rfl
    | ok principal =>
        dsimp only
        rw [requireOrgadmin_of_not_passes (refused principal caller)]
        rfl
  unfold Request.program
  cases request.edit with
  | setOrgTool toolName enabled =>
      exact (table_of_bind_reads _ (fun _ => writesIn_pure _) _).trans (stops _ _)
  | putOrgSkill skillName markdown =>
      exact (table_of_bind_reads _ (fun _ => writesIn_pure _) _).trans (stops _ _)
  | deleteOrgSkill skillName => exact stops _ _

/-- A caller who passes the role test changes something unless the edit is idle. -/
theorem changes_iff_of_passes
    (caller : (runAlone (Dashboard.getPrincipal request.session) table).1 = .ok principal)
    (passes : Passes principal request.orgId) :
    request.Changes table ↔
      ¬ request.edit.Idle request.orgId principal request.now table := by
  have goes : ∀ {α : Type} (what : String) (rest : Principal → TableProgram α),
      (runAlone (do
        let principal ← Dashboard.getPrincipal request.session
        Dashboard.requireOrgadmin principal request.orgId what
        rest principal) table).2 = (runAlone (rest principal) table).2 := by
    intro α what rest
    rw [(Dashboard.getPrincipal_reads _).runAlone_bind, caller]
    dsimp only
    rw [requireOrgadmin_of_passes passes]
    rfl
  unfold Request.Changes Request.program Edit.Idle
  cases request.edit with
  | setOrgTool toolName enabled =>
      rw [← ne_eq, ← changes_putItem_iff]
      refine exists_congr fun key => ?_
      rw [table_of_bind_reads _ fun _ => writesIn_pure _]
      unfold Dashboard.setOrgTool
      rw [goes "org tool config"]
      rfl
  | putOrgSkill skillName markdown =>
      have written : (runAlone (do
          let _ ← Dashboard.putOrgSkill request.repr request.session request.orgId skillName
            markdown request.now) table).2 =
          (runAlone (SkillsStore.put request.repr request.orgId skillName markdown
            principal.userId request.now) table).2 := by
        rw [table_of_bind_reads _ fun _ => writesIn_pure _]
        unfold Dashboard.putOrgSkill
        rw [goes "editing skills", table_of_bind_reads]
        intro outcome
        cases outcome <;> trivial
      dsimp only
      rw [written, SkillsStore.table_of_put]
      by_cases refused : SkillsStore.maxSkillBytes < markdown.utf8ByteSize
      · rw [if_pos refused]
        exact iff_of_false (fun ⟨_, differs⟩ => differs rfl) fun live => live (Or.inl refused)
      · rw [if_neg refused, or_iff_right refused]
        cases SkillsStore.createdAt (table.getItem (SkillsStore.pk request.orgId skillName))
            request.now with
        | error error =>
            exact iff_of_false (fun ⟨_, differs⟩ => differs rfl) fun live => live nofun
        | ok createdAt =>
            simp only [changes_putItem_iff, ne_eq, Except.ok.injEq, forall_eq']
  | deleteOrgSkill skillName =>
      rw [← ne_eq, ← changes_deleteItem_iff]
      refine exists_congr fun key => ?_
      unfold Dashboard.deleteOrgSkill
      dsimp only
      rw [goes "deleting skills"]
      rfl

/-- The bar is kept exactly where the request is proper. -/
theorem keepsBar_iff (deployFlag : Bool) (request : Request) (table : Table) :
    request.KeepsBar deployFlag table ↔ request.Proper table := by
  unfold Request.KeepsBar Request.Proper
  cases caller : (runAlone (Dashboard.getPrincipal request.session) table).1 with
  | error error =>
      refine iff_of_true (fun changes => ?_) nofun
      obtain ⟨key, differs⟩ := changes
      rw [table_of_refused fun principal found => nomatch caller.symm.trans found] at differs
      exact absurd rfl differs
  | ok principal =>
      have secret : (Authz.can deployFlag principal .update
          { type := .alpacaSecret, orgId := some request.orgId }).allowed = true ↔
            Authz.isOrgadmin principal (some request.orgId) = true :=
        Authz.alpacaSecret_allowed_iff rfl deployFlag .update
      simp only [Except.ok.injEq, exists_eq_left', forall_eq', secret, and_self]
      by_cases passes : Passes principal request.orgId
      · rw [changes_iff_of_passes caller passes]
        have known : Authz.isOrgadmin principal (some request.orgId) = true ∨
            principal.sysadmin = true := by
          rcases passes with sysadmin | orgadmin
          · exact Or.inr sysadmin
          · exact Or.inl (decide_eq_true orgadmin)
        constructor
        · intro kept _ stranger
          by_contra live
          rw [kept live] at stranger
          cases stranger
        · intro proper live
          by_contra stranger
          rw [Bool.not_eq_true] at stranger
          rcases known with orgadmin | sysadmin
          · rw [orgadmin] at stranger
            cases stranger
          · exact live (proper sysadmin stranger)
      · have unchanged : ¬ request.Changes table := by
          rintro ⟨key, differs⟩
          rw [table_of_refused fun other found => by
            cases caller.symm.trans found
            exact passes] at differs
          exact differs rfl
        refine iff_of_true (fun changes => absurd changes unchanged) fun sysadmin => ?_
        exact absurd (Or.inl sysadmin) passes

end Edits

/-- After a bootstrap superwoman, who is no member of the organisation, makes a
tool available in it. -/
theorem not_keepsBar_sysadmin :
    let boot : Bootstrap.Draw := ⟨"org", "user", 0, 0, 0, 0⟩
    ¬ Request.KeepsBar false ⟨some ⟨"user"⟩, "desk", .setOrgTool "news" true, 1, id⟩
      (Bootstrap.completed id boot boot) := by
  intro boot keeps
  have changes : Request.Changes ⟨some ⟨"user"⟩, "desk", .setOrgTool "news" true, 1, id⟩
      (Bootstrap.completed id boot boot) :=
    ⟨OrgToolsStore.pk "desk" "news", by decide +kernel⟩
  obtain ⟨principal, caller, -, orgadmin⟩ := keeps changes
  have stranger : (runAlone (Dashboard.getPrincipal (some ⟨"user"⟩))
      (Bootstrap.completed id boot boot)).1.toOption.map
        (fun principal => Authz.isOrgadmin principal (some "desk")) = some false := by
    decide +kernel
  rw [caller] at stranger
  cases orgadmin.symm.trans (Option.some.inj stranger)

end OrgConfig

end TradingStrands
