import TradingStrands.Ddb.Marshal
import TradingStrands.Ddb.Schema
import TradingStrands.Models.Registry
import TradingStrands.Tenancy.Store
import TradingStrands.Tools.Base

/-!
Owns strategies and their rows: what a row has to hold to be read as a strategy,
and the operations of the store. Creating checks everything before it writes. An
update writes the fields it is given and then reads the whole row back.

`Libraries` stands for the parsing library and the table's own limits; its laws
are that a boolean and an integer read back from the row they were stored in.
-/

namespace TradingStrands

open TradingStrands.Foundation TableProgram

structure Libraries where
  /-- How scalars of a stored row are read. -/
  row : Scalars Attr
  /-- How scalars of a request body are read. -/
  body : Scalars JsonValue
  /-- Whether the table takes attributes of this size, depth and precision. -/
  accepts : List (String × Attr) → Bool
  row_bool : ∀ value, row.bool? (.bool value) = some value
  row_number : ∀ value, row.int? (.number value) = some value

inductive StrategyStatus
  | active
  | paused
  | stopped
deriving DecidableEq, Repr

def StrategyStatus.value : StrategyStatus → String
  | .active => "active"
  | .paused => "paused"
  | .stopped => "stopped"

def StrategyStatus.ofValue? (value : String) : Option StrategyStatus :=
  [StrategyStatus.active, .paused, .stopped].find? fun status => status.value = value

structure Strategy where
  strategyId : String
  orgId : OrgId
  authorUserId : UserId
  name : String
  markdown : String
  symbols : List String := []
  capital : String := "1000"
  status : StrategyStatus := .active
  createdAt : Int
  updatedAt : Int
  tools : List (String × StrategyToolConfig) := []
  skills : List String := []
  modelId : String := ""
deriving DecidableEq, Repr

/-! ### Reading rows -/

namespace Item

def textOf (name : String) : Attr → Except CallError String
  | .text value => .ok value
  | _ => .error (.validation name)

/-- A list of texts, empty by default. -/
def texts (item : Item) (name : String) : Except CallError (List String) :=
  match item.attr? name with
  | none => .ok []
  | some (.list items) => items.mapM (textOf name)
  | _ => .error (.validation name)

def int (libraries : Libraries) (item : Item) (name : String) : Except CallError Int :=
  match (item.attr? name).bind libraries.row.int? with
  | none => .error (.validation name)
  | some value => .ok value

end Item

namespace Strategy

variable (libraries : Libraries)

def readStatus (item : Item) : Except CallError StrategyStatus :=
  match item.attr? "status" with
  | none => .ok .active
  | some (.text value) =>
      match StrategyStatus.ofValue? value with
      | none => .error (.validation "status")
      | some status => .ok status
  | _ => .error (.validation "status")

def readTool (entry : String × Attr) : Except CallError (String × StrategyToolConfig) :=
  match entry.2 with
  | .map fields =>
      match StrategyToolConfig.ofFields libraries.row fields with
      | none => .error (.validation "tools")
      | some config => .ok (entry.1, config)
  | _ => .error (.validation "tools")

def readTools (item : Item) : Except CallError (List (String × StrategyToolConfig)) :=
  match item.attr? "tools" with
  | none => .ok []
  | some (.map entries) => entries.mapM (readTool libraries)
  | _ => .error (.validation "tools")

/-- `Strategy.model_validate`; unknown attributes are ignored. -/
def modelValidate (item : Item) : Except CallError Strategy := do
  let strategyId ← item.text "strategy_id"
  let orgId ← item.text "org_id"
  let authorUserId ← item.text "author_user_id"
  let name ← item.text "name"
  let markdown ← item.text "markdown"
  let symbols ← item.texts "symbols"
  let capital ← item.textD "capital" "1000"
  let status ← readStatus item
  let createdAt ← item.int libraries "created_at"
  let updatedAt ← item.int libraries "updated_at"
  let tools ← readTools libraries item
  let skills ← item.texts "skills"
  let modelId ← item.textD "model_id" ""
  return { strategyId, orgId, authorUserId, name, markdown, symbols, capital, status, createdAt,
           updatedAt, tools, skills, modelId }

def dumpTool (entry : String × StrategyToolConfig) : String × Attr :=
  (entry.1, .map [("enabled", .bool entry.2.enabled), ("daily_quota", .number entry.2.dailyQuota)])

/-- `model_dump(mode="json")`. -/
def modelDump (strategy : Strategy) : Item :=
  [("strategy_id", .text strategy.strategyId), ("org_id", .text strategy.orgId),
    ("author_user_id", .text strategy.authorUserId), ("name", .text strategy.name),
    ("markdown", .text strategy.markdown), ("symbols", .list (strategy.symbols.map Attr.text)),
    ("capital", .text strategy.capital), ("status", .text strategy.status.value),
    ("created_at", .number strategy.createdAt), ("updated_at", .number strategy.updatedAt),
    ("tools", .map (strategy.tools.map dumpTool)),
    ("skills", .list (strategy.skills.map Attr.text)), ("model_id", .text strategy.modelId)]

/-! ### What a row has to hold -/

def acceptsStatus : Attr → Bool
  | .text value => (StrategyStatus.ofValue? value).isSome
  | _ => false

def acceptsInt (value : Attr) : Bool := (libraries.row.int? value).isSome

def acceptsTool : Attr → Bool
  | .map fields => (StrategyToolConfig.ofFields libraries.row fields).isSome
  | _ => false

def acceptsTools : Attr → Bool
  | .map entries => entries.all fun entry => acceptsTool libraries entry.2
  | _ => false

def schema : Schema :=
  [("strategy_id", Attr.required Attr.isText), ("org_id", Attr.required Attr.isText),
    ("author_user_id", Attr.required Attr.isText), ("name", Attr.required Attr.isText),
    ("markdown", Attr.required Attr.isText), ("symbols", Attr.optional Attr.isTextList),
    ("capital", Attr.optional Attr.isText), ("status", Attr.optional acceptsStatus),
    ("created_at", Attr.required (acceptsInt libraries)),
    ("updated_at", Attr.required (acceptsInt libraries)),
    ("tools", Attr.optional (acceptsTools libraries)), ("skills", Attr.optional Attr.isTextList),
    ("model_id", Attr.optional Attr.isText)]

end Strategy

section Readers

variable {libraries : Libraries} {item : Item} {name : String}

theorem Item.text_isOk_iff :
    (∃ value, item.text name = .ok value) ↔ Attr.required Attr.isText (item.attr? name) = true := by
  unfold Item.text
  cases item.attr? name with
  | none => simp [Attr.required]
  | some value => cases value <;> simp [Attr.required, Attr.isText]

theorem Item.textD_isOk_iff {default_ : String} :
    (∃ value, item.textD name default_ = .ok value) ↔
      Attr.optional Attr.isText (item.attr? name) = true := by
  unfold Item.textD
  cases item.attr? name with
  | none => simp [Attr.optional]
  | some value => cases value <;> simp [Attr.optional, Attr.isText]

theorem Item.texts_isOk_iff :
    (∃ values, item.texts name = .ok values) ↔
      Attr.optional Attr.isTextList (item.attr? name) = true := by
  unfold Item.texts
  cases item.attr? name with
  | none => simp [Attr.optional]
  | some value =>
      cases value with
      | list items =>
          dsimp only
          rw [mapM_isOk_iff]
          unfold Attr.optional Attr.isTextList
          rw [List.all_eq_true]
          refine forall₂_congr fun entry _ => ?_
          cases entry <;> simp [Item.textOf, Attr.isText]
      | _ => simp [Attr.optional, Attr.isTextList]

theorem Item.int_isOk_iff :
    (∃ value, item.int libraries name = .ok value) ↔
      Attr.required (Strategy.acceptsInt libraries) (item.attr? name) = true := by
  unfold Item.int
  cases item.attr? name with
  | none => simp [Attr.required]
  | some value =>
      simp only [Option.bind_some, Attr.required, Strategy.acceptsInt]
      cases libraries.row.int? value <;> simp

theorem Strategy.readStatus_isOk_iff :
    (∃ status, Strategy.readStatus item = .ok status) ↔
      Attr.optional Strategy.acceptsStatus (item.attr? "status") = true := by
  unfold Strategy.readStatus
  cases item.attr? "status" with
  | none => simp [Attr.optional]
  | some value =>
      cases value with
      | text value =>
          simp only [Attr.optional, Strategy.acceptsStatus]
          cases StrategyStatus.ofValue? value <;> simp
      | _ => simp [Attr.optional, Strategy.acceptsStatus]

theorem Strategy.readTool_isOk_iff {entry : String × Attr} :
    (∃ tool, Strategy.readTool libraries entry = .ok tool) ↔
      Strategy.acceptsTool libraries entry.2 = true := by
  obtain ⟨name, value⟩ := entry
  cases value with
  | map fields =>
      unfold Strategy.readTool Strategy.acceptsTool
      dsimp only
      cases StrategyToolConfig.ofFields libraries.row fields <;> simp
  | _ => simp [Strategy.readTool, Strategy.acceptsTool]

theorem Strategy.readTools_isOk_iff :
    (∃ tools, Strategy.readTools libraries item = .ok tools) ↔
      Attr.optional (Strategy.acceptsTools libraries) (item.attr? "tools") = true := by
  unfold Strategy.readTools
  cases item.attr? "tools" with
  | none => simp [Attr.optional]
  | some value =>
      cases value with
      | map entries =>
          dsimp only
          rw [mapM_isOk_iff]
          unfold Attr.optional Strategy.acceptsTools
          rw [List.all_eq_true]
          exact forall₂_congr fun entry _ => Strategy.readTool_isOk_iff
      | _ => simp [Attr.optional, Strategy.acceptsTools]

/-- A row is read as a strategy exactly when each of its attributes is accepted. -/
theorem Strategy.modelValidate_isOk_iff :
    (∃ strategy, Strategy.modelValidate libraries item = .ok strategy) ↔
      (Strategy.schema libraries).Conforms item := by
  have conforms : (Strategy.schema libraries).Conforms item ↔
      (∃ value, item.text "strategy_id" = .ok value) ∧ (∃ value, item.text "org_id" = .ok value) ∧
      (∃ value, item.text "author_user_id" = .ok value) ∧ (∃ value, item.text "name" = .ok value) ∧
      (∃ value, item.text "markdown" = .ok value) ∧ (∃ values, item.texts "symbols" = .ok values) ∧
      (∃ value, item.textD "capital" "1000" = .ok value) ∧
      (∃ status, Strategy.readStatus item = .ok status) ∧
      (∃ value, item.int libraries "created_at" = .ok value) ∧
      (∃ value, item.int libraries "updated_at" = .ok value) ∧
      (∃ tools, Strategy.readTools libraries item = .ok tools) ∧
      (∃ values, item.texts "skills" = .ok values) ∧
      ∃ value, item.textD "model_id" "" = .ok value := by
    unfold Schema.Conforms Strategy.schema
    simp only [List.forall_mem_cons, List.not_mem_nil, false_imp_iff, implies_true, and_true,
      Item.text_isOk_iff, Item.textD_isOk_iff, Item.texts_isOk_iff, Item.int_isOk_iff,
      Strategy.readStatus_isOk_iff, Strategy.readTools_isOk_iff]
  rw [conforms]
  unfold Strategy.modelValidate
  simp only [bind_ok_iff]
  constructor
  · rintro ⟨_, id, readId, org, readOrg, author, readAuthor, name, readName, text, readText, symbols,
      readSymbols, capital, readCapital, status, readStatus, created, readCreated, updated,
      readUpdated, tools, readTools, skills, readSkills, model, readModel, -⟩
    exact ⟨⟨id, readId⟩, ⟨org, readOrg⟩, ⟨author, readAuthor⟩, ⟨name, readName⟩, ⟨text, readText⟩,
      ⟨symbols, readSymbols⟩, ⟨capital, readCapital⟩, ⟨status, readStatus⟩, ⟨created, readCreated⟩,
      ⟨updated, readUpdated⟩, ⟨tools, readTools⟩, ⟨skills, readSkills⟩, model, readModel⟩
  · rintro ⟨⟨id, readId⟩, ⟨org, readOrg⟩, ⟨author, readAuthor⟩, ⟨name, readName⟩, ⟨text, readText⟩,
      ⟨symbols, readSymbols⟩, ⟨capital, readCapital⟩, ⟨status, readStatus⟩, ⟨created, readCreated⟩,
      ⟨updated, readUpdated⟩, ⟨tools, readTools⟩, ⟨skills, readSkills⟩, model, readModel⟩
    exact ⟨_, id, readId, org, readOrg, author, readAuthor, name, readName, text, readText, symbols,
      readSymbols, capital, readCapital, status, readStatus, created, readCreated, updated,
      readUpdated, tools, readTools, skills, readSkills, model, readModel, rfl⟩

theorem Strategy.readTool_dumpTool (entry : String × StrategyToolConfig) :
    Strategy.readTool libraries (Strategy.dumpTool entry) = .ok entry := by
  have reads : StrategyToolConfig.ofFields libraries.row
      [("enabled", .bool entry.2.enabled), ("daily_quota", .number entry.2.dailyQuota)] =
        some entry.2 := by
    simp [StrategyToolConfig.ofFields, StrategyToolConfig.field, libraries.row_bool,
      libraries.row_number]
  unfold Strategy.readTool Strategy.dumpTool
  dsimp only
  rw [reads]

/-- A strategy reads back from the row it is written to. -/
theorem Strategy.modelValidate_modelDump (strategy : Strategy) :
    Strategy.modelValidate libraries strategy.modelDump = .ok strategy := by
  have texts : ∀ (name : String) (values : List String),
      (values.map Attr.text).mapM (Item.textOf name) = .ok values := fun name =>
    @mapM_map_ok _ _ _ (Item.textOf name) Attr.text fun _ => rfl
  have status : ∀ status : StrategyStatus, StrategyStatus.ofValue? status.value = some status := by
    intro status
    cases status <;> rfl
  have symbols : strategy.modelDump.texts "symbols" = .ok strategy.symbols := texts _ _
  have skills : strategy.modelDump.texts "skills" = .ok strategy.skills := texts _ _
  have tools : Strategy.readTools libraries strategy.modelDump = .ok strategy.tools :=
    mapM_map_ok Strategy.readTool_dumpTool strategy.tools
  have created : strategy.modelDump.int libraries "created_at" = .ok strategy.createdAt := by
    have stored : strategy.modelDump.attr? "created_at" = some (.number strategy.createdAt) := rfl
    unfold Item.int
    rw [stored, Option.bind_some, libraries.row_number]
  have updated : strategy.modelDump.int libraries "updated_at" = .ok strategy.updatedAt := by
    have stored : strategy.modelDump.attr? "updated_at" = some (.number strategy.updatedAt) := rfl
    unfold Item.int
    rw [stored, Option.bind_some, libraries.row_number]
  have active : Strategy.readStatus strategy.modelDump = .ok strategy.status := by
    have stored : strategy.modelDump.attr? "status" = some (.text strategy.status.value) := rfl
    unfold Strategy.readStatus
    rw [stored]
    dsimp only
    rw [status]
  unfold Strategy.modelValidate
  rw [symbols, skills, tools, created, updated, active]
  rfl

theorem Strategy.conforms_modelDump (strategy : Strategy) :
    (Strategy.schema libraries).Conforms strategy.modelDump :=
  Strategy.modelValidate_isOk_iff.mp ⟨strategy, Strategy.modelValidate_modelDump strategy⟩

end Readers

/-! ### The store -/

namespace StrategyStore

variable (libraries : Libraries)

def strategyPrefix : String := "STRATEGY" ++ "#"
def strategyPk (strategyId : String) : String := "STRATEGY" ++ "#" ++ strategyId
def aclPrefix (strategyId : String) : String := "STRATEGYACL" ++ "#" ++ (strategyId ++ "#")

@[simp] theorem familyOf_strategyPk (strategyId : String) :
    familyOf '#' (strategyPk strategyId) = "STRATEGY".toList :=
  familyOf_append (by decide) (by decide)

@[simp] theorem strategyPk_inj {left right : String} :
    strategyPk left = strategyPk right ↔ left = right := by
  simp [strategyPk, ← String.toList_inj]

@[simp] theorem strategyPk_begins (strategyId : String) :
    beginsWith (strategyPk strategyId) strategyPrefix = true := by
  rw [beginsWith_iff]
  exact ⟨strategyId.toList, by simp [strategyPk, strategyPrefix]⟩

theorem exists_strategyPk {pk : String} (begins : beginsWith pk strategyPrefix = true) :
    ∃ strategyId, pk = strategyPk strategyId := by
  obtain ⟨rest, whole⟩ := beginsWith_iff.mp begins
  refine ⟨String.ofList rest, String.toList_inj.mp ?_⟩
  rw [← whole]
  simp [strategyPk, strategyPrefix]

/-- Scalars that are read from values of their own type only. -/
def plainLibraries : Libraries where
  row := {
    bool? := fun | .bool value => some value | _ => none
    int? := fun | .number value => some value | _ => none }
  body := {
    bool? := fun | .bool value => some value | _ => none
    int? := fun | .int value => some value | _ => none }
  accepts := fun _ => true
  row_bool := fun _ => rfl
  row_number := fun _ => rfl

/-- The id and the clock read of a creation. -/
structure Draw where
  strategyId : String
  now : Int := 0

/-- What a strategy is created from. -/
structure NewStrategy where
  orgId : OrgId
  authorUserId : UserId
  name : String
  markdown : String
  symbols : List String := []
  capital : String := "1000"
  tools : List (String × StrategyToolConfig) := []
  skills : List String := []
  modelId : String := ""

def NewStrategy.strategy (new : NewStrategy) (draw : Draw) : Strategy :=
  { strategyId := draw.strategyId, orgId := new.orgId, authorUserId := new.authorUserId
    name := new.name, markdown := new.markdown, symbols := new.symbols, capital := new.capital
    createdAt := draw.now, updatedAt := draw.now, tools := new.tools, skills := new.skills
    modelId := new.modelId }

/-- The model is checked at save time. -/
def checkModel (modelId : String) : TableProgram Unit :=
  if Models.validateModelId modelId = true then return ()
  else throw (.unknownModel ("unknown model_id: " ++ modelId))

/-- The table's refusal of a write. -/
def checkAccepted (attrs : List (String × Attr)) : TableProgram Unit :=
  if libraries.accepts attrs = true then return () else throw (.service "write refused")

def create (new : NewStrategy) (draw : Draw) : TableProgram Strategy := do
  checkModel new.modelId
  let strategy := new.strategy draw
  checkAccepted libraries strategy.modelDump
  let absent ← putNew (strategyPk strategy.strategyId) strategy.modelDump
  if absent = true then return strategy else throw .conditionalCheckFailed

/-- The strategy, whoever asks; callers check authorization. -/
def get (strategyId : String) : TableProgram Strategy := do
  match ← getItem (strategyPk strategyId) with
  | none => throw (.notFound strategyId)
  | some item => parsed (Strategy.modelValidate libraries item)

/-- The strategies of an organisation, filtered by the table. -/
def listForOrg (orgId : OrgId) : TableProgram (List Strategy) := do
  let rows ← scanPrefix strategyPrefix
  parsed ((rows.filter fun row => row.2.attr? "org_id" = some (.text orgId)).mapM fun row =>
    Strategy.modelValidate libraries row.2)

def listAll : TableProgram (List Strategy) := do
  let rows ← scanPrefix strategyPrefix
  parsed (rows.mapM fun row => Strategy.modelValidate libraries row.2)

/-- Fields that are set once at creation. -/
def protectedFields : List String :=
  ["pk", "strategy_id", "org_id", "author_user_id", "created_at"]

/-- The model among the fields of an update; no rendering of another kind of
value is on the allowlist. -/
def checkModelField (fields : List (String × JsonValue)) : TableProgram Unit :=
  match fields.find? fun field => field.1 = "model_id" with
  | none => return ()
  | some (_, .text modelId) => checkModel modelId
  | some _ => throw (.unknownModel "unknown model_id")

/-- What an update sets. -/
def stored (fields : List (String × JsonValue)) : TableProgram (List (String × Attr)) :=
  match JsonValue.marshalFields fields with
  | none => throw (.service "Float types are not supported. Use Decimal types instead.")
  | some attrs => return attrs

/-- The part of an update before its write: the attributes it is going to set. -/
def prepareUpdate (fields : List (String × JsonValue)) (now : Int) :
    TableProgram (List (String × Attr)) := do
  let fields := fields.filter fun field => field.1 ∉ protectedFields
  checkModelField fields
  let attrs ← stored (("updated_at", .int now) :: fields)
  checkAccepted libraries attrs
  return attrs

/-- Apply a partial update and read the row back. -/
def update (strategyId : String) (fields : List (String × JsonValue)) (now : Int) :
    TableProgram Strategy := do
  let attrs ← prepareUpdate libraries fields now
  match ← updateItem (strategyPk strategyId) attrs with
  | none => throw .conditionalCheckFailed
  | some item => parsed (Strategy.modelValidate libraries item)

/-- The co-author a row names; a value that is no text names nobody. -/
def aclUser (item : Item) : Except CallError (Option UserId) :=
  match item.attr? "user_id" with
  | none => .error (.validation "user_id")
  | some (.text userId) => .ok (some userId)
  | some value => if value.hashable = true then .ok none else .error (.validation "user_id")

def aclUsers (strategyId : String) : TableProgram (Finset UserId) := do
  let rows ← scanPrefix (aclPrefix strategyId)
  let users ← parsed (rows.mapM fun row => aclUser row.2)
  return users.reduceOption.toFinset

/-- The grant of edit rights on a strategy to a co-author. -/
structure StrategyAcl where
  strategyId : String
  userId : UserId
  grantedBy : UserId
  createdAt : Int
deriving DecidableEq, Repr

def StrategyAcl.modelDump (acl : StrategyAcl) : Item :=
  [("strategy_id", .text acl.strategyId), ("user_id", .text acl.userId),
    ("granted_by", .text acl.grantedBy), ("created_at", .number acl.createdAt)]

def aclPk (strategyId : String) (userId : UserId) : String :=
  "STRATEGYACL" ++ "#" ++ (strategyId ++ "#" ++ userId)

def addAcl (strategyId : String) (userId grantedBy : UserId) (now : Int) :
    TableProgram StrategyAcl := do
  let acl : StrategyAcl := { strategyId, userId, grantedBy, createdAt := now }
  putItem (aclPk strategyId userId) acl.modelDump
  return acl

def removeAcl (strategyId : String) (userId : UserId) : TableProgram Unit :=
  deleteItem (aclPk strategyId userId)

def deleteItems : List (String × Item) → TableProgram Unit
  | [] => return ()
  | row :: rest => do
      deleteItem row.1
      deleteItems rest

/-- Delete a strategy, and after it the grants on it. -/
def delete (strategyId : String) : TableProgram Unit := do
  deleteItem (strategyPk strategyId)
  let rows ← scanPrefix (aclPrefix strategyId)
  deleteItems rows

theorem table_of_deleteItems (rows : List (String × Item)) (table : Table) :
    (runAlone (deleteItems rows) table).2 = (rows.map Prod.fst).foldl Dict.erase table := by
  induction rows generalizing table with
  | nil => rfl
  | cons row rest inductionHypothesis => exact inductionHypothesis (table.deleteItem row.1)

def resourceFor (strategy : Strategy) (acl : Finset UserId) : Resource :=
  { type := .strategy, orgId := some strategy.orgId, authorUserId := some strategy.authorUserId
    delegatedUserIds := acl }

/-! ### What the reads and checks write -/

theorem checkModel_reads (modelId : String) : ReadsOnly (checkModel modelId) := by
  unfold checkModel
  split <;> trivial

theorem checkAccepted_reads (attrs : List (String × Attr)) :
    ReadsOnly (checkAccepted libraries attrs) := by
  unfold checkAccepted
  split <;> trivial

theorem get_reads (strategyId : String) : ReadsOnly (get libraries strategyId) := by
  refine Program.All.bind writesIn_getItem fun stored => ?_
  cases stored <;> trivial

theorem checkModelField_reads (fields : List (String × JsonValue)) :
    ReadsOnly (checkModelField fields) := by
  unfold checkModelField
  split
  · trivial
  · exact checkModel_reads _
  · trivial

theorem prepareUpdate_reads (fields : List (String × JsonValue)) (now : Int) :
    ReadsOnly (prepareUpdate libraries fields now) := by
  refine Program.All.bind (checkModelField_reads _) fun _ => ?_
  refine Program.All.bind ?_ fun _ =>
    Program.All.bind (checkAccepted_reads libraries _) fun _ => writesIn_pure _
  unfold stored
  split <;> trivial

theorem aclUsers_reads (strategyId : String) : ReadsOnly (aclUsers strategyId) :=
  Program.All.bind (writesIn_scanPrefix _) fun _ =>
    Program.All.bind (writesIn_parsed _) fun _ => writesIn_pure _

end StrategyStore

end TradingStrands
