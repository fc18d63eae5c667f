import TradingStrands.Dashboard.Admin
import TradingStrands.StrategyProposals.Store

/-!
Owns the endpoints that write strategies. Creating reads the tools of the body
as tool configurations before anything is written; an update stores them as they
came, and reads them only with the row it has written.

Does not own: the checks of names, symbols and texts on a body, which only
refuse bodies.
-/

namespace TradingStrands

open TradingStrands.Foundation TableProgram

namespace Dashboard

/-- The tools of a request body. -/
abbrev ToolBodies : Type := List (String × List (String × JsonValue))

/-- The organisation a request is for; `claimed` is what the query or the session
names. -/
def getActiveOrg (claimed : Option OrgId) (principal : Principal) : TableProgram OrgId :=
  match claimed with
  | none => throw (.http ⟨400, "No active organization selected"⟩)
  | some orgId =>
      if orgId = "" then throw (.http ⟨400, "No active organization selected"⟩)
      else if (principal.memberships.get? orgId).isSome = true then return orgId
      else throw (.http ⟨403, "Not a member of the requested organization"⟩)

/-- Answer a model that is not on the allowlist with an error response. -/
def orBadModel {α : Type} (program : TableProgram α) : TableProgram α :=
  tryCatch program fun
    | .unknownModel message => throw (.http ⟨400, message⟩)
    | error => throw error

structure StrategyCreate where
  name : String
  markdown : String
  symbols : List String := []
  capital : String := "1000"
  tools : ToolBodies := []
  skills : List String := []
  modelId : String := ""

/-- The tools of a body as configurations. -/
def toolConfigs (libraries : Libraries) (tools : ToolBodies) :
    Except CallError (List (String × StrategyToolConfig)) :=
  tools.mapM fun tool =>
    match StrategyToolConfig.ofFields libraries.body tool.2 with
    | none => .error (.validation "tools")
    | some config => .ok (tool.1, config)

def createStrategy (deploy : Deploy) (libraries : Libraries) (session : Option Session)
    (claimed : Option OrgId) (body : StrategyCreate) (draw : StrategyStore.Draw) :
    TableProgram Strategy := do
  let principal ← getPrincipal session
  let orgId ← getActiveOrg claimed principal
  require deploy principal .create
    { type := .strategy, orgId := some orgId, authorUserId := some principal.userId }
  let tools ← parsed (toolConfigs libraries body.tools)
  orBadModel (StrategyStore.create libraries
    { orgId, authorUserId := principal.userId, name := body.name, markdown := body.markdown
      symbols := body.symbols, capital := body.capital, tools, skills := body.skills
      modelId := body.modelId } draw)

/-- The checks that open every endpoint that changes a strategy. -/
def requireUpdate (deploy : Deploy) (libraries : Libraries) (session : Option Session)
    (strategyId : String) : TableProgram Principal := do
  let principal ← getPrincipal session
  let strategy ← orNotFound (StrategyStore.get libraries strategyId) "Strategy not found"
  let acl ← StrategyStore.aclUsers strategyId
  require deploy principal .update (StrategyStore.resourceFor strategy acl)
  return principal

/-- The statuses a request can set. -/
def checkStatus (status : String) : TableProgram Unit :=
  if status ∈ ["active", "paused", "stopped"] then return ()
  else throw (.http ⟨400, "Invalid status"⟩)

/-- The status of a body that has one. -/
def checkStatusField (status : Option String) : TableProgram Unit :=
  match status with
  | none => return ()
  | some status => checkStatus status

structure StrategyUpdate where
  name : Option String := none
  markdown : Option String := none
  symbols : Option (List String) := none
  capital : Option String := none
  status : Option String := none
  tools : Option ToolBodies := none
  skills : Option (List String) := none
  modelId : Option String := none

/-- A field the body may leave out. -/
def optionalField {α : Type} (name : String) (value : α → JsonValue) (field : Option α) :
    List (String × JsonValue) :=
  match field with
  | none => []
  | some content => [(name, value content)]

def textItems (texts : List String) : JsonValue := .list (texts.map .text)

/-- The tools as they came. -/
def toolItems (tools : ToolBodies) : JsonValue := .map (tools.map fun tool => (tool.1, .map tool.2))

def StrategyUpdate.fields (body : StrategyUpdate) : List (String × JsonValue) :=
  optionalField "name" .text body.name ++ (optionalField "markdown" .text body.markdown ++
    (optionalField "symbols" textItems body.symbols ++
      (optionalField "capital" .text body.capital ++ (optionalField "status" .text body.status ++
        (optionalField "tools" toolItems body.tools ++
          (optionalField "skills" textItems body.skills ++
            optionalField "model_id" .text body.modelId))))))

def updateStrategy (deploy : Deploy) (libraries : Libraries) (session : Option Session)
    (strategyId : String) (body : StrategyUpdate) (now : Int) : TableProgram Strategy := do
  let _ ← requireUpdate deploy libraries session strategyId
  checkStatusField body.status
  orBadModel (StrategyStore.update libraries strategyId body.fields now)

def updateStrategyStatus (deploy : Deploy) (libraries : Libraries) (session : Option Session)
    (strategyId status : String) (now : Int) : TableProgram String := do
  checkStatus status
  let _ ← requireUpdate deploy libraries session strategyId
  let _ ← StrategyStore.update libraries strategyId [("status", .text status)] now
  return status

/-- Copy the markdown of a pending proposal into the strategy, then mark the
proposal as applied. -/
def applyStrategyProposal (deploy : Deploy) (libraries : Libraries) (session : Option Session)
    (strategyId proposalId : String) (now : Int) : TableProgram StrategyProposal := do
  let principal ← requireUpdate deploy libraries session strategyId
  let proposal ← orNotFound (StrategyProposalsStore.get libraries strategyId proposalId)
    "Proposal not found"
  if proposal.status ≠ .pending then
    throw (.http ⟨409, "proposal already " ++ proposal.status.value⟩)
  let _ ← StrategyStore.update libraries strategyId
    [("markdown", .text proposal.proposedMarkdown)] now
  StrategyProposalsStore.decide libraries strategyId proposalId .applied principal.userId now

/-- Mark a pending proposal as rejected. -/
def rejectStrategyProposal (deploy : Deploy) (libraries : Libraries) (session : Option Session)
    (strategyId proposalId : String) (now : Int) : TableProgram StrategyProposal := do
  let principal ← requireUpdate deploy libraries session strategyId
  let proposal ← orNotFound (StrategyProposalsStore.get libraries strategyId proposalId)
    "Proposal not found"
  if proposal.status ≠ .pending then
    throw (.http ⟨409, "proposal already " ++ proposal.status.value⟩)
  StrategyProposalsStore.decide libraries strategyId proposalId .rejected principal.userId now

/-! ### What the checks write -/

theorem getActiveOrg_reads (claimed : Option OrgId) (principal : Principal) :
    ReadsOnly (getActiveOrg claimed principal) := by
  unfold getActiveOrg
  cases claimed with
  | none => trivial
  | some orgId =>
      dsimp only
      split
      · trivial
      · split <;> trivial

theorem checkStatus_reads (status : String) : ReadsOnly (checkStatus status) := by
  unfold checkStatus
  split <;> trivial

theorem checkStatusField_reads (status : Option String) : ReadsOnly (checkStatusField status) := by
  cases status with
  | none => trivial
  | some status => exact checkStatus_reads status

theorem requireUpdate_reads (deploy : Deploy) (libraries : Libraries) (session : Option Session)
    (strategyId : String) : ReadsOnly (requireUpdate deploy libraries session strategyId) := by
  refine Program.All.bind (getPrincipal_reads session) fun principal => ?_
  refine Program.All.bind ((StrategyStore.get_reads libraries strategyId).orNotFound _)
    fun strategy => ?_
  refine Program.All.bind (StrategyStore.aclUsers_reads strategyId) fun acl => ?_
  exact Program.All.bind (require_reads deploy principal _ _) fun _ => writesIn_pure _

end Dashboard

/-- The requests that write strategies. -/
inductive StrategyRequest
  | create (session : Option Session) (claimed : Option OrgId) (body : Dashboard.StrategyCreate)
      (draw : StrategyStore.Draw)
  | update (session : Option Session) (strategyId : String) (body : Dashboard.StrategyUpdate)
      (now : Int)
  | updateStatus (session : Option Session) (strategyId status : String) (now : Int)
  | applyProposal (session : Option Session) (strategyId proposalId : String) (now : Int)

/-- What a request runs; its response is not kept. -/
def StrategyRequest.program (deploy : Deploy) (libraries : Libraries) :
    StrategyRequest → TableProgram Unit
  | .create session claimed body draw => do
      let _ ← Dashboard.createStrategy deploy libraries session claimed body draw
  | .update session strategyId body now => do
      let _ ← Dashboard.updateStrategy deploy libraries session strategyId body now
  | .updateStatus session strategyId status now => do
      let _ ← Dashboard.updateStrategyStatus deploy libraries session strategyId status now
  | .applyProposal session strategyId proposalId now => do
      let _ ← Dashboard.applyStrategyProposal deploy libraries session strategyId proposalId now

end TradingStrands
