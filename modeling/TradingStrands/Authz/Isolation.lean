import TradingStrands.Authz.Policy

/-!
Owns what the policy decides from. A decision depends on the user, the sysadmin
flag and the role in the organisation that owns the resource, and on nothing
else about the principal. For a principal that is no sysadmin it is a threshold:
each action on a resource needs a level, and the role gives one.
-/

namespace TradingStrands.Authz

open TradingStrands.Foundation

/-! ### When a predicate allows -/

section Predicates

variable (deployFlag : Bool) (p : Principal) (a : Action) (r : Resource)

theorem allowSysadminRead_isSome : (allowSysadminRead deployFlag p a r).isSome = true ↔
    p.sysadmin = true ∧ (a = .read ∨ a = .list) ∧ r.type ≠ .alpacaSecret ∧
      (r.orgId = none ∨ deployFlag = true) := by
  unfold allowSysadminRead
  grind

theorem allowSysadminSystemConfig_isSome : (allowSysadminSystemConfig p a r).isSome = true ↔
    p.sysadmin = true ∧ r.type = .systemConfig ∧ r.orgId = none := by
  unfold allowSysadminSystemConfig
  grind

theorem allowStrategyRead_isSome : (allowStrategyRead p a r).isSome = true ↔
    r.type = .strategy ∧ (a = .read ∨ a = .list) ∧ isOrgMember p r.orgId = true := by
  unfold allowStrategyRead
  grind

/-- The author of a resource and its co-authors. -/
def Writes (userId : UserId) (resource : Resource) : Prop :=
  ∃ author, resource.authorUserId = some author ∧
    (userId = author ∨ userId ∈ resource.delegatedUserIds)

theorem allowStrategyAuthorMutate_isSome : (allowStrategyAuthorMutate p a r).isSome = true ↔
    r.type = .strategy ∧ (a = .update ∨ a = .delete) ∧ Writes p.userId r ∧
      (roleIn p r.orgId = some .operator ∨ roleIn p r.orgId = some .orgadmin) := by
  unfold allowStrategyAuthorMutate Writes
  grind

theorem allowOperatorCreateStrategy_isSome : (allowOperatorCreateStrategy p a r).isSome = true ↔
    r.type = .strategy ∧ a = .create ∧
      (roleIn p r.orgId = some .operator ∨ roleIn p r.orgId = some .orgadmin) := by
  unfold allowOperatorCreateStrategy
  grind

theorem allowOrgadminAnyStrategy_isSome : (allowOrgadminAnyStrategy p a r).isSome = true ↔
    r.type = .strategy ∧ (a = .update ∨ a = .delete) ∧ isOrgadmin p r.orgId = true := by
  unfold allowOrgadminAnyStrategy
  grind

theorem allowOrgadminUserMgmt_isSome : (allowOrgadminUserMgmt p a r).isSome = true ↔
    (r.type = .user ∨ r.type = .alpacaSecret) ∧ isOrgadmin p r.orgId = true := by
  unfold allowOrgadminUserMgmt
  grind

theorem allowSysadminUserMgmt_isSome : (allowSysadminUserMgmt p a r).isSome = true ↔
    p.sysadmin = true ∧ r.type = .user := by
  unfold allowSysadminUserMgmt
  grind

theorem allowOrgCreateBySysadmin_isSome : (allowOrgCreateBySysadmin p a r).isSome = true ↔
    r.type = .org ∧ a = .create ∧ p.sysadmin = true := by
  unfold allowOrgCreateBySysadmin
  grind

theorem allowOrgMutateByOrgadmin_isSome : (allowOrgMutateByOrgadmin p a r).isSome = true ↔
    r.type = .org ∧ (a = .update ∨ a = .delete) ∧ isOrgadmin p r.orgId = true := by
  unfold allowOrgMutateByOrgadmin
  grind

theorem allowOrgReadByMember_isSome : (allowOrgReadByMember p a r).isSome = true ↔
    r.type = .org ∧ (a = .read ∨ a = .list) ∧ isOrgMember p r.orgId = true := by
  unfold allowOrgReadByMember
  grind

theorem allowMarketDataRead_isSome : (allowMarketDataRead p a r).isSome = true ↔
    r.type = .marketData ∧ (a = .read ∨ a = .list) := by
  unfold allowMarketDataRead
  grind

/-- No predicate of the chain answers with a denial. -/
theorem allowed_of_mem_chain {predicate : Predicate} (member : predicate ∈ allowChain deployFlag)
    {permission : Permission} (answered : predicate p a r = some permission) :
    permission.allowed = true := by
  unfold allowChain at member
  simp only [List.mem_cons, List.not_mem_nil, or_false] at member
  rcases member with rfl | rfl | rfl | rfl | rfl | rfl | rfl | rfl | rfl | rfl | rfl | rfl
  · grind [allowSysadminRead]
  · grind [allowSysadminSystemConfig]
  · grind [allowSysadminUserMgmt]
  · grind [allowStrategyAuthorMutate]
  · grind [allowOrgadminAnyStrategy]
  · grind [allowOperatorCreateStrategy]
  · grind [allowStrategyRead]
  · grind [allowOrgadminUserMgmt]
  · grind [allowOrgCreateBySysadmin]
  · grind [allowOrgMutateByOrgadmin]
  · grind [allowOrgReadByMember]
  · grind [allowMarketDataRead]

/-- The decision is yes exactly when some predicate of the chain says so. -/
theorem can_allowed_iff : (can deployFlag p a r).allowed = true ↔
    ∃ predicate ∈ allowChain deployFlag, (predicate p a r).isSome = true := by
  unfold can
  cases found : (allowChain deployFlag).findSome? fun predicate => predicate p a r with
  | none =>
      rw [List.findSome?_eq_none_iff] at found
      constructor
      · intro allowed
        cases allowed
      · rintro ⟨predicate, member, answers⟩
        rw [found predicate member] at answers
        cases answers
  | some permission =>
      obtain ⟨predicate, member, answered⟩ := List.exists_of_findSome?_eq_some found
      refine iff_of_true (allowed_of_mem_chain deployFlag p a r member answered) ?_
      exact ⟨predicate, member, by rw [answered]; rfl⟩

/-- The reasons to allow, one a predicate. -/
theorem can_allowed_iff_reasons : (can deployFlag p a r).allowed = true ↔
    (p.sysadmin = true ∧ (a = .read ∨ a = .list) ∧ r.type ≠ .alpacaSecret ∧
        (r.orgId = none ∨ deployFlag = true)) ∨
      (p.sysadmin = true ∧ r.type = .systemConfig ∧ r.orgId = none) ∨
      (p.sysadmin = true ∧ r.type = .user) ∨
      (r.type = .strategy ∧ (a = .update ∨ a = .delete) ∧ Writes p.userId r ∧
        (roleIn p r.orgId = some .operator ∨ roleIn p r.orgId = some .orgadmin)) ∨
      (r.type = .strategy ∧ (a = .update ∨ a = .delete) ∧ isOrgadmin p r.orgId = true) ∨
      (r.type = .strategy ∧ a = .create ∧
        (roleIn p r.orgId = some .operator ∨ roleIn p r.orgId = some .orgadmin)) ∨
      (r.type = .strategy ∧ (a = .read ∨ a = .list) ∧ isOrgMember p r.orgId = true) ∨
      ((r.type = .user ∨ r.type = .alpacaSecret) ∧ isOrgadmin p r.orgId = true) ∨
      (r.type = .org ∧ a = .create ∧ p.sysadmin = true) ∨
      (r.type = .org ∧ (a = .update ∨ a = .delete) ∧ isOrgadmin p r.orgId = true) ∨
      (r.type = .org ∧ (a = .read ∨ a = .list) ∧ isOrgMember p r.orgId = true) ∨
      (r.type = .marketData ∧ (a = .read ∨ a = .list)) := by
  rw [can_allowed_iff]
  unfold allowChain
  simp only [List.mem_cons, List.not_mem_nil, or_false, exists_eq_or_imp, exists_eq_left,
    allowSysadminRead_isSome, allowSysadminSystemConfig_isSome, allowSysadminUserMgmt_isSome,
    allowStrategyAuthorMutate_isSome, allowOrgadminAnyStrategy_isSome,
    allowOperatorCreateStrategy_isSome, allowStrategyRead_isSome, allowOrgadminUserMgmt_isSome,
    allowOrgCreateBySysadmin_isSome, allowOrgMutateByOrgadmin_isSome, allowOrgReadByMember_isSome,
    allowMarketDataRead_isSome]

end Predicates

/-! ### What a decision reads -/

/-- Two principals that differ at most in their addresses and in their roles
elsewhere. -/
structure SameFor (orgId : Option OrgId) (left right : Principal) : Prop where
  userId : left.userId = right.userId
  sysadmin : left.sysadmin = right.sysadmin
  role : roleIn left orgId = roleIn right orgId

theorem predicate_congr {left right : Principal} {resource : Resource}
    (same : SameFor resource.orgId left right) {deployFlag : Bool} {predicate : Predicate}
    (member : predicate ∈ allowChain deployFlag) (action : Action) :
    predicate left action resource = predicate right action resource := by
  obtain ⟨userId, sysadmin, role⟩ := same
  have belongs : isOrgMember left resource.orgId = isOrgMember right resource.orgId :=
    congrArg Option.isSome role
  have administers : isOrgadmin left resource.orgId = isOrgadmin right resource.orgId :=
    congrArg (fun role => decide (role = some Role.orgadmin)) role
  unfold allowChain at member
  simp only [List.mem_cons, List.not_mem_nil, or_false] at member
  rcases member with rfl | rfl | rfl | rfl | rfl | rfl | rfl | rfl | rfl | rfl | rfl | rfl
  · simp only [allowSysadminRead, sysadmin]
  · simp only [allowSysadminSystemConfig, sysadmin]
  · simp only [allowSysadminUserMgmt, sysadmin]
  · simp only [allowStrategyAuthorMutate, userId, role]
  · simp only [allowOrgadminAnyStrategy, administers]
  · simp only [allowOperatorCreateStrategy, role]
  · simp only [allowStrategyRead, belongs]
  · simp only [allowOrgadminUserMgmt, administers]
  · simp only [allowOrgCreateBySysadmin, sysadmin]
  · simp only [allowOrgMutateByOrgadmin, administers]
  · simp only [allowOrgReadByMember, belongs]
  · rfl

/-- The whole decision, its reason included, reads the principal's user, flag
and role in the owning organisation only. -/
theorem can_congr {left right : Principal} {resource : Resource}
    (same : SameFor resource.orgId left right) (deployFlag : Bool) (action : Action) :
    can deployFlag left action resource = can deployFlag right action resource := by
  have answers :
      (allowChain deployFlag).map (fun predicate => predicate left action resource) =
        (allowChain deployFlag).map fun predicate => predicate right action resource :=
    List.map_congr_left fun predicate member => predicate_congr same member action
  have first := congrArg (List.findSome? id) answers
  rw [List.findSome?_map, List.findSome?_map] at first
  exact congrArg (fun answer : Option Permission => answer.getD _) first

/-! ### Levels -/

/-- How far a role reaches: viewers and auditors alike, then operators, then
administrators of the organisation. -/
def levelOf : Option Role → Nat
  | none => 0
  | some .viewer | some .auditor => 1
  | some .operator => 2
  | some .orgadmin => 3

instance (userId : UserId) (resource : Resource) : Decidable (Writes userId resource) :=
  match author : resource.authorUserId with
  | none => isFalse fun ⟨_, found, _⟩ => by simp [author] at found
  | some name => decidable_of_iff (userId = name ∨ userId ∈ resource.delegatedUserIds)
      ⟨fun writes => ⟨name, author, writes⟩, fun ⟨_, found, writes⟩ => by
        obtain rfl := Option.some.inj (author.symm.trans found)
        exact writes⟩

/-- The level an action on a resource needs of a user who is no sysadmin, if any
is enough. -/
def neededLevel (userId : UserId) (action : Action) (resource : Resource) : Option Nat :=
  match resource.type, action with
  | .marketData, .read | .marketData, .list => some 0
  | .strategy, .read | .strategy, .list => some 1
  | .org, .read | .org, .list => some 1
  | .strategy, .create => some 2
  | .strategy, .update | .strategy, .delete => if Writes userId resource then some 2 else some 3
  | .org, .update | .org, .delete => some 3
  | .user, _ | .alpacaSecret, _ => some 3
  | _, _ => none

theorem isOrgMember_iff_level {principal : Principal} {orgId : Option OrgId} :
    isOrgMember principal orgId = true ↔ 1 ≤ levelOf (roleIn principal orgId) := by
  unfold isOrgMember
  cases roleIn principal orgId with
  | none => simp [levelOf]
  | some role => cases role <;> simp [levelOf]

theorem writer_iff_level {role : Option Role} :
    role = some .operator ∨ role = some .orgadmin ↔ 2 ≤ levelOf role := by
  cases role with
  | none => simp [levelOf]
  | some role => cases role <;> simp [levelOf]

theorem isOrgadmin_iff_level {principal : Principal} {orgId : Option OrgId} :
    isOrgadmin principal orgId = true ↔ 3 ≤ levelOf (roleIn principal orgId) := by
  unfold isOrgadmin
  cases roleIn principal orgId with
  | none => simp [levelOf]
  | some role => cases role <;> simp [levelOf]

/-- Without the sysadmin flag the policy is a threshold on the role. -/
theorem allowed_iff_neededLevel {principal : Principal} (plain : principal.sysadmin = false)
    (deployFlag : Bool) (action : Action) (resource : Resource) :
    (can deployFlag principal action resource).allowed = true ↔
      ∃ needed, neededLevel principal.userId action resource = some needed ∧
        needed ≤ levelOf (roleIn principal resource.orgId) := by
  rw [can_allowed_iff_reasons]
  unfold neededLevel
  simp only [isOrgMember_iff_level, isOrgadmin_iff_level, writer_iff_level, plain]
  -- all but the two writes to a strategy are one comparison
  cases type : resource.type <;> cases action <;> simp
  all_goals
    by_cases writes : Writes principal.userId resource
    · simp only [writes, true_and, if_true, Option.some.injEq, exists_eq_left']
      omega
    · simp [writes]

/-! ### Tenants -/

/-- Reading market data, which every authenticated user may do. -/
def ReadsMarketData (action : Action) (resource : Resource) : Prop :=
  resource.type = .marketData ∧ (action = .read ∨ action = .list)

theorem neededLevel_eq_zero_iff {userId : UserId} {action : Action} {resource : Resource} :
    neededLevel userId action resource = some 0 ↔ ReadsMarketData action resource := by
  unfold neededLevel ReadsMarketData
  cases resource.type <;> cases action <;> grind

/-- Who is neither a member nor a sysadmin reads market data and nothing else. -/
theorem stranger_allowed_iff {principal : Principal} {resource : Resource}
    (plain : principal.sysadmin = false) (stranger : roleIn principal resource.orgId = none)
    (deployFlag : Bool) (action : Action) :
    (can deployFlag principal action resource).allowed = true ↔ ReadsMarketData action resource := by
  rw [allowed_iff_neededLevel plain, stranger, ← @neededLevel_eq_zero_iff principal.userId]
  constructor
  · rintro ⟨needed, found, below⟩
    rw [found, Nat.le_zero.mp below]
  · intro found
    exact ⟨0, found, le_refl 0⟩

/-- Alpaca secrets are the administrators' of the owning organisation. -/
theorem alpacaSecret_allowed_iff {principal : Principal} {resource : Resource}
    (secret : resource.type = .alpacaSecret) (deployFlag : Bool) (action : Action) :
    (can deployFlag principal action resource).allowed = true ↔
      isOrgadmin principal resource.orgId = true := by
  rw [can_allowed_iff_reasons]
  simp [secret]

/-- A decision on a resource is made from what the principal is to the owning
organisation: roles elsewhere change nothing, strangers read market data only,
and Alpaca secrets are their administrators' whatever the flags. -/
theorem can_isolates (deployFlag : Bool) (action : Action) (resource : Resource) :
    (∀ left right : Principal, SameFor resource.orgId left right →
        can deployFlag left action resource = can deployFlag right action resource) ∧
      (∀ principal : Principal, principal.sysadmin = false →
        roleIn principal resource.orgId = none →
          ((can deployFlag principal action resource).allowed = true ↔
            ReadsMarketData action resource)) ∧
      (resource.orgId = none → ∀ principal : Principal, principal.sysadmin = false →
        ((can deployFlag principal action resource).allowed = true ↔
          ReadsMarketData action resource)) ∧
      (resource.type = .alpacaSecret → ∀ (principal : Principal) (orgId : OrgId),
        resource.orgId = some orgId →
          ((can deployFlag principal action resource).allowed = true ↔
            principal.memberships.get? orgId = some .orgadmin)) := by
  refine ⟨?_, ?_, ?_, ?_⟩
  · intro left right same
    exact can_congr same deployFlag action
  · intro principal plain stranger
    exact stranger_allowed_iff plain stranger deployFlag action
  · intro systemWide principal plain
    have stranger : roleIn principal resource.orgId = none := by
      rw [systemWide]
      rfl
    exact stranger_allowed_iff plain stranger deployFlag action
  · intro secret principal orgId owner
    rw [alpacaSecret_allowed_iff secret, owner]
    exact decide_eq_true_iff

/-- A sysadmin with the deploy flag on still has no Alpaca secret. -/
theorem can_isolates_secret :
    (can true ⟨"ada", "ada@x", Dict.empty, true⟩ .read ⟨.alpacaSecret, some "org", none, ∅⟩).allowed
      = false ∧
    can true ⟨"ada", "ada@x", Dict.empty.set "other" .orgadmin, false⟩ .read
        ⟨.strategy, some "org", some "ada", ∅⟩ =
      can true ⟨"ada", "ada@y", Dict.empty, false⟩ .read ⟨.strategy, some "org", some "ada", ∅⟩ := by
  constructor
  · rw [← Bool.not_eq_true,
      (can_isolates true .read ⟨.alpacaSecret, some "org", none, ∅⟩).2.2.2 rfl _ "org" rfl]
    decide
  · exact (can_isolates true .read ⟨.strategy, some "org", some "ada", ∅⟩).1 _ _
      ⟨rfl, rfl, by decide⟩

/-! ### Roles -/

/-- The same principal with another role in one organisation. -/
def withRole (principal : Principal) (orgId : OrgId) (role : Role) : Principal :=
  { principal with memberships := principal.memberships.set orgId role }

/-- Writing anything needs more than reading does. -/
theorem two_le_neededLevel {userId : UserId} {action : Action} {resource : Resource} {needed : Nat}
    (mutates : action = .create ∨ action = .update ∨ action = .delete)
    (found : neededLevel userId action resource = some needed) : 2 ≤ needed := by
  unfold neededLevel at found
  rcases mutates with rfl | rfl | rfl <;> cases type : resource.type <;> grind

/-- Viewers and auditors write nothing, not even as recorded authors, and a
higher role never loses a permission. -/
theorem can_ordered {principal : Principal} {orgId : OrgId} {role : Role} {resource : Resource}
    (plain : principal.sysadmin = false) (member : principal.memberships.get? orgId = some role)
    (owner : resource.orgId = some orgId) (deployFlag : Bool) (action : Action) :
    ((role = .viewer ∨ role = .auditor) →
        (action = .create ∨ action = .update ∨ action = .delete) →
          (can deployFlag principal action resource).allowed = false) ∧
      (∀ higher : Role, levelOf (some role) ≤ levelOf (some higher) →
        (can deployFlag principal action resource).allowed = true →
          (can deployFlag (withRole principal orgId higher) action resource).allowed = true) := by
  have held : roleIn principal resource.orgId = some role := by
    rw [owner]
    exact member
  constructor
  · intro reads mutates
    rw [← Bool.not_eq_true, allowed_iff_neededLevel plain, held]
    rintro ⟨needed, found, below⟩
    have writes : 2 ≤ needed := two_le_neededLevel mutates found
    have reach : levelOf (some role) = 1 := by
      rcases reads with rfl | rfl <;> rfl
    omega
  · intro higher raises allowed
    rw [allowed_iff_neededLevel plain, held] at allowed
    obtain ⟨needed, found, below⟩ := allowed
    have plainStill : (withRole principal orgId higher).sysadmin = false := plain
    have raised : roleIn (withRole principal orgId higher) resource.orgId = some higher := by
      rw [owner]
      exact Dict.get?_set_self _ _ _
    rw [allowed_iff_neededLevel plainStill, raised]
    exact ⟨needed, found, le_trans below raises⟩

/-- A recorded author who is a viewer cannot edit; an operator made administrator
still can. -/
theorem can_ordered_author :
    (can false ⟨"ada", "ada@x", Dict.empty.set "org" .viewer, false⟩ .update
        ⟨.strategy, some "org", some "ada", ∅⟩).allowed = false ∧
      (can false (withRole ⟨"ada", "ada@x", Dict.empty.set "org" .operator, false⟩ "org" .orgadmin)
        .update ⟨.strategy, some "org", some "ada", ∅⟩).allowed = true := by
  constructor
  · exact (can_ordered rfl (by decide) rfl false .update).1 (Or.inl rfl) (Or.inr (Or.inl rfl))
  · have member : (Dict.empty.set "org" Role.operator).get? "org" = some .operator := by decide
    exact (can_ordered rfl member rfl false .update).2 .orgadmin (by decide) (by decide +kernel)

end TradingStrands.Authz
