import TradingStrands.Authz.Model
import TradingStrands.Ddb.Operations
import TradingStrands.Halt.Store

/-!
Owns the halt and unhalt endpoints: which flag a request is about, and the
write of that flag. The resolver is the only authorization on these endpoints.
It is sound except in one branch: without an explicit scope, an administrator
of some organisation gets the active one, in which any role is enough.

Does not own: how the principal and the active organisation are read from the
session; both are inputs.
-/

namespace TradingStrands

open TradingStrands.Foundation

/-- Without a scope it is chosen for the caller. -/
structure HaltRequest where
  scope : Option String := none
  orgId : Option OrgId := none
  reason : Option String := none

namespace HaltControl

/-- `left or right` on texts that may be missing. -/
def orElse (left : Option String) (right : String) : String :=
  match left with
  | none => right
  | some text => if text = "" then right else text

/-- The organisations the principal administers. -/
def adminOrgs (principal : Principal) : List OrgId :=
  (principal.memberships.entries.filter fun entry => entry.2 = .orgadmin).map Prod.fst

/-- Resolve the scope of a halt or unhalt request. -/
def haltScopeAndOrg (principal : Principal) (body : HaltRequest) (activeOrgId : OrgId) :
    Except HttpException HaltTarget :=
  if body.scope = some "system" then
    if principal.sysadmin = false then .error ⟨403, "system halt requires sysadmin"⟩
    else .ok .system
  else if body.scope = some "org" then
    let target := orElse body.orgId activeOrgId
    if target = "" then .error ⟨400, "org halt requires org_id"⟩
    else if principal.sysadmin = false ∧ principal.memberships.get? target ≠ some .orgadmin then
      .error ⟨403, "org halt requires orgadmin of " ++ target⟩
    else .ok (.org target)
  else if principal.sysadmin = true then .ok .system
  else if Role.orgadmin ∈ principal.memberships.values then
    if activeOrgId ≠ "" ∧ (principal.memberships.get? activeOrgId).isSome = true then
      .ok (.org activeOrgId)
    else
      match adminOrgs principal with
      | [orgId] => .ok (.org orgId)
      | _ => .error ⟨400, "specify org_id — caller admins multiple orgs"⟩
  else .error ⟨403, "halt requires orgadmin or sysadmin"⟩

/-- What the endpoints answer. -/
structure HaltResponse where
  status : String
  scope : String
  orgId : Option OrgId := none
deriving DecidableEq, Repr

/-- Set the flag the request resolves to. -/
def setHalt (table : Table) (stamp : HaltStore.Stamp) (halted : Bool) (status verb : String)
    (principal : Principal) (body : HaltRequest) (activeOrgId : OrgId) :
    Table × Except HttpException HaltResponse :=
  let reason := orElse body.reason ("dashboard " ++ verb ++ " by " ++ principal.email)
  match haltScopeAndOrg principal body activeOrgId with
  | .error error => (table, .error error)
  | .ok .system =>
      (HaltStore.setSystemHalt table stamp halted reason, .ok ⟨status, "system", none⟩)
  | .ok (.org orgId) =>
      (HaltStore.setOrgHalt table stamp orgId halted reason, .ok ⟨status, "org", some orgId⟩)

def haltTrading (table : Table) (stamp : HaltStore.Stamp) (principal : Principal)
    (body : HaltRequest) (activeOrgId : OrgId) : Table × Except HttpException HaltResponse :=
  setHalt table stamp true "halted" "halt" principal body activeOrgId

def unhaltTrading (table : Table) (stamp : HaltStore.Stamp) (principal : Principal)
    (body : HaltRequest) (activeOrgId : OrgId) : Table × Except HttpException HaltResponse :=
  setHalt table stamp false "running" "unhalt" principal body activeOrgId

/-! ### Authority -/

/-- Who may set a flag. -/
def Administers (principal : Principal) : HaltTarget → Prop
  | .system => principal.sysadmin = true
  | .org orgId =>
      principal.sysadmin = true ∨ principal.memberships.get? orgId = some .orgadmin

instance (principal : Principal) : (target : HaltTarget) → Decidable (Administers principal target)
  | .system => inferInstanceAs (Decidable (_ = _))
  | .org _ => inferInstanceAs (Decidable (_ ∨ _))

/-- Every request that resolves is about a flag the caller may set. -/
def ScopeSound (principal : Principal) (body : HaltRequest) (activeOrgId : OrgId) : Prop :=
  ∀ target, haltScopeAndOrg principal body activeOrgId = .ok target → Administers principal target

/-- The endpoints leave the flags of other organisations alone. -/
def FlagsGuarded (principal : Principal) (body : HaltRequest) (activeOrgId : OrgId) : Prop :=
  ∀ (table : Table) (stamp : HaltStore.Stamp) (orgId : OrgId),
    ¬ Administers principal (.org orgId) →
      HaltStore.getOrgState (haltTrading table stamp principal body activeOrgId).1 orgId =
          HaltStore.getOrgState table orgId ∧
        HaltStore.getOrgState (unhaltTrading table stamp principal body activeOrgId).1 orgId =
          HaltStore.getOrgState table orgId

/-- Without an explicit scope, an administrator of some organisation who is no
sysadmin is active in one where the role is another. -/
structure Overreaches (principal : Principal) (body : HaltRequest) (activeOrgId : OrgId) :
    Prop where
  noScope : body.scope ≠ some "system" ∧ body.scope ≠ some "org"
  plain : principal.sysadmin = false
  adminSomewhere : Role.orgadmin ∈ principal.memberships.values
  active : activeOrgId ≠ ""
  lesserRole : ∃ role, principal.memberships.get? activeOrgId = some role ∧ role ≠ .orgadmin

theorem mem_adminOrgs_iff {principal : Principal} {orgId : OrgId} :
    orgId ∈ adminOrgs principal ↔ principal.memberships.get? orgId = some .orgadmin := by
  unfold adminOrgs
  rw [Dict.get?_eq_some_iff, List.mem_map]
  constructor
  · rintro ⟨⟨other, role⟩, member, rfl⟩
    rw [List.mem_filter] at member
    obtain ⟨member, admin⟩ := member
    have orgadmin : role = .orgadmin := of_decide_eq_true admin
    rw [← orgadmin]
    exact member
  · intro member
    exact ⟨(orgId, .orgadmin), List.mem_filter.mpr ⟨member, by simp⟩, rfl⟩

/-- The resolver is sound outside the one branch. -/
theorem scopeSound_of_not_overreaches {principal : Principal} {body : HaltRequest}
    {activeOrgId : OrgId} (within : ¬ Overreaches principal body activeOrgId) :
    ScopeSound principal body activeOrgId := by
  intro target resolved
  unfold haltScopeAndOrg at resolved
  by_cases system : body.scope = some "system"
  · rw [if_pos system] at resolved
    cases sysadmin : principal.sysadmin with
    | false => simp [sysadmin] at resolved
    | true =>
        rw [if_neg (by simp [sysadmin]), Except.ok.injEq] at resolved
        subst resolved
        exact sysadmin
  rw [if_neg system] at resolved
  by_cases org : body.scope = some "org"
  · rw [if_pos org] at resolved
    dsimp only at resolved
    split at resolved
    · cases resolved
    · split at resolved
      · cases resolved
      next allowed =>
        rw [Except.ok.injEq] at resolved
        subst resolved
        by_contra lacks
        unfold Administers at lacks
        rw [not_or, Bool.not_eq_true] at lacks
        exact allowed lacks
  rw [if_neg org] at resolved
  cases sysadmin : principal.sysadmin with
  | true =>
      rw [if_pos sysadmin, Except.ok.injEq] at resolved
      subst resolved
      exact sysadmin
  | false =>
      rw [if_neg (by simp [sysadmin])] at resolved
      split at resolved
      next somewhere =>
        split at resolved
        next active =>
          rw [Except.ok.injEq] at resolved
          subst resolved
          obtain ⟨role, member⟩ := Option.isSome_iff_exists.mp active.2
          by_cases admin : role = .orgadmin
          · exact Or.inr (admin ▸ member)
          · exact absurd ⟨⟨system, org⟩, sysadmin, somewhere, active.1, role, member, admin⟩ within
        next =>
          split at resolved
          next only =>
            rw [Except.ok.injEq] at resolved
            subst resolved
            exact Or.inr (mem_adminOrgs_iff.mp (by rw [only]; simp))
          next => cases resolved
      next => cases resolved

theorem haltScopeAndOrg_of_overreaches {principal : Principal} {body : HaltRequest}
    {activeOrgId : OrgId} (overreaches : Overreaches principal body activeOrgId) :
    haltScopeAndOrg principal body activeOrgId = .ok (.org activeOrgId) := by
  obtain ⟨⟨notSystem, notOrg⟩, plain, somewhere, active, role, member, -⟩ := overreaches
  unfold haltScopeAndOrg
  rw [if_neg notSystem, if_neg notOrg, if_neg (by simp [plain]), if_pos somewhere,
    if_pos ⟨active, by rw [member]; rfl⟩]

/-- An endpoint writes the flag the request resolves to and no other
organisation's. -/
theorem getOrgState_setHalt_of_sound {principal : Principal} {body : HaltRequest}
    {activeOrgId : OrgId} (sound : ScopeSound principal body activeOrgId) (table : Table)
    (stamp : HaltStore.Stamp) (halted : Bool) (status verb : String) {orgId : OrgId}
    (foreign : ¬ Administers principal (.org orgId)) :
    HaltStore.getOrgState (setHalt table stamp halted status verb principal body activeOrgId).1 orgId =
      HaltStore.getOrgState table orgId := by
  unfold setHalt
  cases resolved : haltScopeAndOrg principal body activeOrgId with
  | error error => rfl
  | ok target =>
      cases target with
      | system => exact HaltStore.getOrgState_setSystemHalt table stamp orgId halted _
      | org resolvedOrg =>
          have different : orgId ≠ resolvedOrg := by
            rintro rfl
            exact foreign (sound _ resolved)
          exact HaltStore.getOrgState_setOrgHalt_of_ne table stamp halted _ different

/-- Requests are resolved, and flags guarded, exactly when the request does not
reach for the active organisation with a lesser role. -/
theorem scopeSound_iff (principal : Principal) (body : HaltRequest) (activeOrgId : OrgId) :
    ScopeSound principal body activeOrgId ∧ FlagsGuarded principal body activeOrgId ↔
      ¬ Overreaches principal body activeOrgId := by
  constructor
  · rintro ⟨sound, -⟩ overreaches
    have administers := sound _ (haltScopeAndOrg_of_overreaches overreaches)
    obtain ⟨-, plain, -, -, role, member, lesser⟩ := overreaches
    rcases administers with sysadmin | admin
    · rw [plain] at sysadmin
      cases sysadmin
    · exact lesser (Option.some.inj (member.symm.trans admin))
  · intro within
    have sound := scopeSound_of_not_overreaches within
    refine ⟨sound, fun table stamp orgId foreign => ⟨?_, ?_⟩⟩
    · exact getOrgState_setHalt_of_sound sound table stamp true _ _ foreign
    · exact getOrgState_setHalt_of_sound sound table stamp false _ _ foreign

/-- An administrator of one organisation who is a viewer of the active one. -/
def visitor : Principal :=
  ⟨"ada", "ada@x", (Dict.empty.set "home" .orgadmin).set "away" .viewer, false⟩

/-- A viewer halts the organisation. -/
theorem not_scopeSound_visitor :
    ¬ (ScopeSound visitor {} "away" ∧ FlagsGuarded visitor {} "away") := by
  rintro ⟨sound, -⟩
  have administers := sound (.org "away") (by decide +kernel)
  revert administers
  decide +kernel

end HaltControl

end TradingStrands
