import TradingStrands.Ddb.Table
import TradingStrands.Supervisor.Ecs

/-!
Owns the supervisor that keeps one service for each running strategy: it turns
every record of the table's change stream into a decision and makes the decision
true. An exception on one record is counted and the batch goes on.

The network, role and log settings of a service are passed on unread and left out.
-/

namespace TradingStrands.StrategySupervisor

open TradingStrands.Foundation EcsProgram

inductive Action
  | noop
  | ensureRunning
  | pause
  | stop
deriving DecidableEq, Repr

def Action.value : Action → String
  | .noop => "NOOP"
  | .ensureRunning => "ENSURE_RUNNING"
  | .pause => "PAUSE"
  | .stop => "STOP"

structure Decision where
  action : Action
  strategyId : Option String
  orgId : Option String
deriving DecidableEq, Repr

/-- One service per strategy. -/
def serviceNameFor (strategyId : String) : String := "ts-strategy-" ++ strategyId

def taskFamilyFor (baseFamily strategyId : String) : String := baseFamily ++ "-" ++ strategyId

@[simp] theorem serviceNameFor_inj {left right : String} :
    serviceNameFor left = serviceNameFor right ↔ left = right := by
  simp [serviceNameFor, ← String.toList_inj]

/-! ### Stream records -/

inductive EventName
  | insert
  | modify
  | remove
  | other (name : String)
deriving DecidableEq, Repr

/-- A record of the change stream. An image holds the attributes of the row, its
key among them; one that is missing is empty. -/
structure StreamRecord where
  eventName : EventName
  newImage : Item := []
  oldImage : Item := []
deriving DecidableEq

/-- A text or number of an image as text; anything else is empty. -/
def unwrap (image : Item) (key : String) : String :=
  match image.attr? key with
  | some (.text value) => value
  | some (.number value) => toString value
  | _ => ""

/-- `text.removeprefix(lead)`. -/
def removeLead (text lead : String) : String :=
  if beginsWith text lead = true then String.ofList (text.toList.drop lead.length) else text

def classifyRecord (record : StreamRecord) : Decision :=
  let image := if record.newImage = [] then record.oldImage else record.newImage
  let pk := unwrap image "pk"
  if beginsWith pk "STRATEGY#" = false then ⟨.noop, none, none⟩
  else
    let named := unwrap image "strategy_id"
    let strategyId := if named = "" then removeLead pk "STRATEGY#" else named
    let owner := unwrap image "org_id"
    let decide (action : Action) : Decision :=
      ⟨action, some strategyId, if owner = "" then none else some owner⟩
    let newStatus := unwrap record.newImage "status"
    match record.eventName with
    | .remove => decide .stop
    | .insert =>
        -- Strategies that are born paused or stopped need no service.
        if newStatus = "active" then decide .ensureRunning else decide .noop
    | .modify =>
        if record.oldImage = [] then decide .noop
        else if unwrap record.oldImage "status" = newStatus then decide .noop
        else if newStatus = "active" then decide .ensureRunning
        else if newStatus = "paused" then decide .pause
        else if newStatus = "stopped" then decide .stop
        else decide .noop
    | .other _ => decide .noop

/-! ### Making decisions true -/

structure Config where
  baseTaskDefinitionFamily : String
  containerImage : String
  extraEnv : Dict String String := Dict.empty

/-- The service, if there is one that is not gone. -/
def serviceState (serviceName : String) : EcsProgram (Option Service) := do
  match ← describeServices serviceName with
  | none => return none
  | some service => if service.status = .inactive then return none else return some service

def registerTaskDef (config : Config) (strategyId orgId : String) : EcsProgram Nat :=
  registerTaskDefinition
    { family := taskFamilyFor config.baseTaskDefinitionFamily strategyId
      image := config.containerImage
      environment := (config.extraEnv.set "STRATEGY_ID" strategyId).set "ORG_ID" orgId }

def ensureRunning (config : Config) (strategyId orgId : String) : EcsProgram Unit := do
  let serviceName := serviceNameFor strategyId
  match ← serviceState serviceName with
  | none =>
      let taskDefinition ← registerTaskDef config strategyId orgId
      createService serviceName taskDefinition 1
  | some existing =>
      if existing.desiredCount < 1 then updateService serviceName 1 else return ()

def pause (strategyId : String) : EcsProgram Unit := do
  let serviceName := serviceNameFor strategyId
  match ← serviceState serviceName with
  | none => return ()
  | some _ => updateService serviceName 0

/-- Scale to zero first, so that the running task drains. -/
def stop (strategyId : String) : EcsProgram Unit := do
  let serviceName := serviceNameFor strategyId
  match ← serviceState serviceName with
  | none => return ()
  | some _ =>
      updateService serviceName 0
      deleteService serviceName

def reconcile (config : Config) (decision : Decision) : EcsProgram Unit :=
  match decision.action, decision.strategyId with
  | .noop, _ => return ()
  | _, none => return ()
  | .ensureRunning, some strategyId =>
      match decision.orgId with
      | none => throw .assertion
      | some orgId => ensureRunning config strategyId orgId
  | .pause, some strategyId => pause strategyId
  | .stop, some strategyId => stop strategyId

/-! ### A batch -/

structure Summary where
  processed : Nat := 0
  errors : Nat := 0
  actions : Dict String Nat := Dict.empty
deriving DecidableEq

def Summary.count (summary : Summary) (action : Action) : Summary :=
  { summary with
    actions := summary.actions.set action.value ((summary.actions.get? action.value).getD 0 + 1) }

def processRecord (config : Config) (summary : Summary) (record : StreamRecord) :
    EcsProgram Summary :=
  let decision := classifyRecord record
  let summary := summary.count decision.action
  tryCatch
    (do
      reconcile config decision
      return summary)
    fun _ => return { summary with errors := summary.errors + 1 }

/-- One batch of the stream. -/
def run (config : Config) (records : List StreamRecord) : EcsProgram Summary :=
  records.foldlM (processRecord config) { processed := records.length }

end TradingStrands.StrategySupervisor
