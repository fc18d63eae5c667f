import TradingStrands.Dashboard.Strategies

/-!
Owns the organisation a session acts in, which three pieces of the program find out
for themselves: the session endpoint that the pages read, the resolution that is
documented for principals, and the one the endpoints use. They treat a claim that
is out of date, and a single membership, in different ways.
-/

namespace TradingStrands

open TradingStrands.Foundation TenancyStore TableProgram

/-- A session with the organisation it claims. -/
structure OrgSession extends Session where
  activeOrgId : Option OrgId

/-- A membership as the pages show it. -/
structure MembershipOut where
  orgId : OrgId
  orgName : String
  orgType : String
  role : String
deriving DecidableEq, Repr

/-- The answer of the session endpoint. -/
structure SessionOut where
  userId : UserId
  email : String
  sysadmin : Bool
  memberships : List MembershipOut
  activeOrgId : Option OrgId
deriving DecidableEq, Repr

namespace Dashboard

/-- What a request claims: the query parameter if it names something, or else the
session. -/
def claimedOrg (query : Option OrgId) (session : OrgSession) : Option OrgId :=
  match query with
  | none => session.activeOrgId
  | some orgId => if orgId = "" then session.activeOrgId else some orgId

/-- The organisation of a principal with one membership. -/
def singleOrg (principal : Principal) : Option OrgId :=
  match principal.memberships.entries with
  | [(orgId, _)] => some orgId
  | _ => none

def isMember (principal : Principal) (orgId : OrgId) : Bool :=
  (principal.memberships.get? orgId).isSome

/-- `active_org_id`. -/
def activeOrgId (session : OrgSession) (principal : Principal) : Option OrgId :=
  match session.activeOrgId with
  | none => singleOrg principal
  | some orgId =>
      if orgId ≠ "" ∧ isMember principal orgId = true then some orgId else singleOrg principal

/-- A membership of an organisation without a row is not shown. -/
def membershipOut (entry : OrgId × Role) : TableProgram (Option MembershipOut) :=
  tryCatch (do
    let org ← getOrg entry.1
    return some { orgId := entry.1, orgName := org.name, orgType := org.orgType.value
                  role := entry.2.value })
    fun
      | .notFound _ => return none
      | error => throw error

def membershipsOut : List (OrgId × Role) → TableProgram (List MembershipOut)
  | [] => return []
  | entry :: rest => do
      let shown ← membershipOut entry
      let others ← membershipsOut rest
      return shown.toList ++ others

/-- The active organisation as the session endpoint finds it. -/
def reportedOrg (session : OrgSession) (principal : Principal) : Option OrgId :=
  let claimed :=
    match session.activeOrgId with
    | none => none
    | some orgId => if orgId ≠ "" ∧ isMember principal orgId = false then none else some orgId
  match claimed with
  | none => singleOrg principal
  | some orgId => some orgId

/-- The session endpoint, for a principal. -/
def sessionOut (session : OrgSession) (principal : Principal) : TableProgram SessionOut := do
  let memberships ← membershipsOut principal.memberships.entries
  return { userId := principal.userId, email := principal.email, sysadmin := principal.sysadmin
           memberships
           activeOrgId := reportedOrg session principal }

/-- `GET /api/session`. -/
def getSession (session : OrgSession) : TableProgram SessionOut := do
  let principal ← getPrincipal (some session.toSession)
  sessionOut session principal

/-- The endpoint answers for the principal its session resolves to. -/
theorem runAlone_getSession (session : OrgSession) (table : Table) :
    (runAlone (getSession session) table).1 =
      match (runAlone (getPrincipal (some session.toSession)) table).1 with
      | .ok principal => (runAlone (sessionOut session principal) table).1
      | .error error => .error error := by
  unfold getSession
  rw [(getPrincipal_reads _).runAlone_bind]
  cases (runAlone (getPrincipal (some session.toSession)) table).1 <;> rfl

/-! ### Agreement -/

/-- No organisation is selected; an empty text names none. -/
def NoneSelected (selected : Option OrgId) : Prop := selected = none ∨ selected = some ""

/-- All three give one organisation of the principal, or all give none. -/
def Agree (principal : Principal) (reported selected : Option OrgId)
    (resolved : Except CallError OrgId) : Prop :=
  (∃ orgId, isMember principal orgId = true ∧ reported = some orgId ∧ selected = some orgId ∧
    resolved = .ok orgId) ∨
  (NoneSelected reported ∧ NoneSelected selected ∧
    resolved = .error (.http ⟨400, "No active organization selected"⟩))

/-- The three resolutions agree, whatever the table. -/
def ResolutionsAgree (session : OrgSession) (principal : Principal) : Prop :=
  ∀ table report, (runAlone (sessionOut session principal) table).1 = .ok report →
    Agree principal report.activeOrgId (activeOrgId session principal)
      (runAlone (getActiveOrg (claimedOrg none session) principal) table).1

/-- The report of a session says what the session endpoint found. -/
theorem activeOrgId_of_sessionOut {session : OrgSession} {principal : Principal} {table : Table}
    {report : SessionOut} (answers : (runAlone (sessionOut session principal) table).1 = .ok report) :
    report.activeOrgId = reportedOrg session principal := by
  unfold sessionOut at answers
  rw [runAlone_bind] at answers
  revert answers
  obtain ⟨error | shown, after⟩ := runAlone (membershipsOut principal.memberships.entries) table
  · exact nofun
  · intro answers
    cases answers
    rfl

theorem runAlone_membershipsOut_empty (entries : List (OrgId × Role)) :
    runAlone (membershipsOut entries) Dict.empty = (.ok [], Dict.empty) := by
  induction entries with
  | nil => rfl
  | cons entry rest inductionHypothesis =>
      have missing : runAlone (membershipOut entry) Dict.empty = (.ok none, Dict.empty) := rfl
      unfold membershipsOut
      rw [runAlone_bind, missing]
      dsimp only
      rw [runAlone_bind, inductionHypothesis]
      rfl

/-- On a table without organisations the session endpoint answers. -/
theorem exists_sessionOut (session : OrgSession) (principal : Principal) :
    ∃ report, (runAlone (sessionOut session principal) Dict.empty).1 = .ok report := by
  unfold sessionOut
  rw [runAlone_bind, runAlone_membershipsOut_empty]
  exact ⟨_, rfl⟩

theorem runAlone_getActiveOrg (claimed : Option OrgId) (principal : Principal) (table : Table) :
    (runAlone (getActiveOrg claimed principal) table).1 =
      match claimed with
      | none => .error (.http ⟨400, "No active organization selected"⟩)
      | some orgId =>
          if orgId = "" then .error (.http ⟨400, "No active organization selected"⟩)
          else if isMember principal orgId = true then .ok orgId
          else .error (.http ⟨403, "Not a member of the requested organization"⟩) := by
  unfold getActiveOrg isMember
  cases claimed with
  | none => rfl
  | some orgId =>
      dsimp only
      by_cases empty : orgId = ""
      · rw [if_pos empty, if_pos empty]
        rfl
      · rw [if_neg empty, if_neg empty]
        by_cases member : (principal.memberships.get? orgId).isSome = true
        · rw [if_pos member, if_pos member]
          rfl
        · rw [if_neg member, if_neg member]
          rfl

/-- The resolutions agree on what they find. -/
theorem resolutionsAgree_iff_agree (session : OrgSession) (principal : Principal) :
    ResolutionsAgree session principal ↔
      Agree principal (reportedOrg session principal) (activeOrgId session principal)
        (runAlone (getActiveOrg session.activeOrgId principal) Dict.empty).1 := by
  constructor
  · intro agree
    obtain ⟨report, answers⟩ := exists_sessionOut session principal
    have found := agree Dict.empty report answers
    rwa [activeOrgId_of_sessionOut answers] at found
  · intro agree table report answers
    rw [activeOrgId_of_sessionOut answers]
    show Agree _ _ _ (runAlone (getActiveOrg session.activeOrgId principal) table).1
    rw [runAlone_getActiveOrg] at agree ⊢
    exact agree

/-- The resolutions agree exactly if the session claims an organisation of the
principal, or claims none and there is no single membership to select. -/
theorem resolutionsAgree_iff (session : OrgSession) (principal : Principal) :
    ResolutionsAgree session principal ↔
      (∃ orgId, session.activeOrgId = some orgId ∧ orgId ≠ "" ∧ isMember principal orgId = true) ∨
        NoneSelected session.activeOrgId ∧ NoneSelected (singleOrg principal) := by
  rw [resolutionsAgree_iff_agree, runAlone_getActiveOrg]
  unfold reportedOrg activeOrgId
  cases claim : session.activeOrgId with
  | none =>
      constructor
      · rintro (⟨orgId, -, -, -, resolved⟩ | ⟨-, unselected, -⟩)
        · cases resolved
        · exact .inr ⟨.inl rfl, unselected⟩
      · rintro (⟨orgId, claimed, -⟩ | ⟨-, unselected⟩)
        · cases claimed
        · refine .inr ⟨?_, unselected, rfl⟩
          rcases unselected with nothing | empty
          · exact .inl (by simp [nothing])
          · exact .inr (by simp [empty])
  | some orgId =>
      by_cases empty : orgId = ""
      · subst empty
        simp [Agree, NoneSelected]
      · by_cases member : isMember principal orgId = true
        · -- The claim holds everywhere.
          refine iff_of_true (.inl ⟨orgId, member, ?_, ?_, ?_⟩) (.inl ⟨orgId, rfl, empty, member⟩)
          · simp [member]
          · simp [empty, member]
          · simp [empty, member]
        · -- The endpoints refuse a claim that is out of date.
          have refused : (if orgId = "" then
              (.error (.http ⟨400, "No active organization selected"⟩) : Except CallError OrgId)
              else if isMember principal orgId = true then .ok orgId
              else .error (.http ⟨403, "Not a member of the requested organization"⟩)) =
                .error (.http ⟨403, "Not a member of the requested organization"⟩) := by
            rw [if_neg empty, if_neg member]
          refine iff_of_false ?_ ?_
          · dsimp only
            rw [refused]
            rintro (⟨other, -, -, -, resolved⟩ | ⟨-, -, resolved⟩)
            · cases resolved
            · cases resolved
          · rintro (⟨other, claimed, -, belongs⟩ | ⟨nothing | claimed, -⟩)
            · cases claimed
              exact member belongs
            · cases nothing
            · cases claimed
              exact empty rfl

/-- A principal that has left an organisation and has one left. -/
def movedPrincipal : Principal where
  userId := "user-1"
  email := "user@example.com"
  memberships := Dict.empty.set "acme" .operator

/-- A session that still claims the organisation its principal has left: it is
shown the remaining one, and every request for it is refused. -/
theorem not_resolutionsAgree_stale :
    ¬ ResolutionsAgree ⟨⟨"user-1"⟩, some "bank"⟩ movedPrincipal := by
  intro agree
  obtain ⟨report, answers⟩ := exists_sessionOut ⟨⟨"user-1"⟩, some "bank"⟩ movedPrincipal
  have refused : (runAlone (getActiveOrg (claimedOrg none ⟨⟨"user-1"⟩, some "bank"⟩) movedPrincipal)
      Dict.empty).1 = .error (.http ⟨403, "Not a member of the requested organization"⟩) := rfl
  rcases agree Dict.empty report answers with ⟨orgId, -, -, -, resolved⟩ | ⟨-, -, resolved⟩
  · rw [refused] at resolved
    cases resolved
  · rw [refused] at resolved
    cases resolved

end Dashboard

end TradingStrands
