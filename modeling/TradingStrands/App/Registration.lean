import TradingStrands.App.Strategies
import TradingStrands.Foundation.NumericText
import TradingStrands.Foundation.Reading
import TradingStrands.Models.Registry
import TradingStrands.Tools.Base

/-!
Owns the registration of a strategy from its row: the ledger, the tools, the
skills, the bot object, and the entry in the orchestrator. Each of the parts can
raise, and what the parts before it did stays done; the orchestrator enters a
bot before it adds the bot's symbols to the watched set.

Rows are arbitrary. `PollEnv` stands for what is not read from them: which
characters beyond ASCII are digits and spaces, how a value that is not text is
rendered, the parsing of scalars, and what the agent library answers to a new
bot. The set of watched symbols is a list without repetitions.
Not modelled: the prompt snapshot a new bot writes, which no registration reads.
-/

namespace TradingStrands

open TradingStrands.Foundation

variable {β : Type}

/-- A bot of the orchestrator. -/
structure Registration where
  symbols : Attr
  /-- History: it was loaded from a strategy row. -/
  fromRow : Bool
deriving DecidableEq

/-- The orchestrator's bots beside the coordinator and the shared table. -/
structure Registry (β : Type) where
  system : System β
  bots : Dict BotId Registration := Dict.empty
  watched : List Attr := []

structure Skill where
  skillName : String
  markdown : String
deriving DecidableEq, Repr

/-- What a strategy's bot is constructed with. -/
structure StrategyBot where
  botId : BotId
  orgId : Attr
  strategyPrompt : Attr
  symbols : Attr
  model : String
  /-- The names of the bound tools. -/
  tools : List String
  calendarEnabled : Bool
  taEnabled : Bool
  skills : List Skill
  strategyName : String

structure PollEnv where
  characters : Characters := .unicode
  /-- `str(value)` of a value that is not text. -/
  render : Attr → String
  scalars : Scalars Attr
  /-- What the agent library answers to the bot. -/
  agent : StrategyBot → Except PyError Unit

/-! ### Values of a row -/

/-- The machine integer a value is. Stored numbers are decimals, so only the
booleans count. -/
def Attr.bit? : Attr → Option Nat
  | .bool value => some value.toNat
  | _ => none

/-- `item[name]`. -/
def Item.required (item : Item) (name : String) : Except PyError Attr :=
  match item.attr? name with
  | none => .error (.keyError name)
  | some value => .ok value

/-- The symbols a bot is registered with. -/
def Item.symbols (row : Item) : Attr := (row.attr? "symbols").getD (.list [.text "AAPL"])

/-- The decimal with the given sign, digits and exponent. -/
def decimalOfSequence : List Attr → Option Numeral
  | [.bool negative, .list _, .text "F"] => some (.infinite negative)
  | [.bool _, .list digits, .text kind] =>
      if (kind = "n" ∨ kind = "N") ∧ digits.all (fun digit => digit.bit?.isSome) = true then
        some (.nan (kind = "N"))
      else none
  | [.bool negative, .list digits, .bool exponent] =>
      (digits.mapM Attr.bit?).map fun bits =>
        let value := Numeral.scale (bits.foldl (fun total bit => total * 10 + bit) 0) exponent.toNat
        .finite (if negative = true then -value else value)
  | _ => none

namespace PollEnv

variable (env : PollEnv)

/-- `str(value)`. -/
def str : Attr → String
  | .text value => value
  | value => env.render value

/-- `Decimal(value)`. -/
def decimal : Attr → Except PyError Numeral
  | .bool value => .ok (.finite value.toNat)
  | .number value => .ok (.finite value)
  | .list items =>
      match decimalOfSequence items with
      | none => .error (.valueError [.text "not a sign, digits and an exponent"])
      | some value => .ok value
  | .null => .error (.typeError "conversion from NoneType to Decimal is not supported")
  | .map _ => .error (.typeError "conversion from dict to Decimal is not supported")
  | document => Foundation.decimal env.characters (env.str document)

/-- `int(value)`. -/
def int : Attr → Except PyError Int
  | .bool value => .ok value.toNat
  | .number value => .ok value
  | .null => .error (.typeError "int() argument must not be NoneType")
  | .list _ => .error (.typeError "int() argument must not be list")
  | .map _ => .error (.typeError "int() argument must not be dict")
  | document =>
      match integer env.characters (env.str document) with
      | none => .error (.valueError [.text "invalid literal for int()"])
      | some value => .ok value

/-- The items a loop over the value runs through. -/
def iterate : Attr → Except PyError (List Attr)
  | .list items => .ok items
  | .map fields => .ok (fields.map fun field => .text field.1)
  | .null => .error (.typeError "'NoneType' object is not iterable")
  | .bool _ => .error (.typeError "'bool' object is not iterable")
  | .number _ => .error (.typeError "'decimal.Decimal' object is not iterable")
  | document => .ok ((env.str document).toList.map fun char => .text (String.singleton char))

/-! ### The parts of a registration -/

/-- Each entry that is a map is read as a tool's configuration; the others are
ignored. -/
def toolConfigModels (toolsConfig : Attr) : Except PyError (List (String × StrategyToolConfig)) :=
  if toolsConfig.truthy = false then .ok []
  else
    match toolsConfig with
    | .map entries =>
        (entries.filterMap fun entry =>
          match entry.2 with
          | .map fields => some (entry.1, fields)
          | _ => none).mapM fun entry =>
            match StrategyToolConfig.ofFields env.scalars entry.2 with
            | none => .error (.valueError [.text "validation error for StrategyToolConfig"])
            | some config => .ok (entry.1, config)
    | _ => .error (.attributeError "items")

/-- Whether a tool is switched on. -/
def enabled (configs : List (String × StrategyToolConfig)) (name : String) : Bool :=
  configs.any fun entry => entry.1 = name ∧ entry.2.enabled = true

/-- The tools that are called by the agent and not injected into its context. -/
def boundTools (configs : List (String × StrategyToolConfig)) : List String :=
  (configs.filter fun entry =>
    entry.1 ∈ ["news", "filings", "social"] ∧ entry.2.enabled = true).map Prod.fst

/-- The skill of an organisation, nothing if it has no row. -/
def getSkill (table : Table) (orgId name : Attr) : Except PyError (Option Skill) :=
  match table.getItem ("SKILL#" ++ env.str orgId ++ "#" ++ env.str name) with
  | none => .ok none
  | some item => do
      let _ ← item.required "org_id"
      let skillName ← item.required "skill_name"
      let markdown ← item.required "markdown"
      let _ ← item.required "author_user_id"
      let createdAt ← item.required "created_at"
      let _ ← env.int createdAt
      let updatedAt ← item.required "updated_at"
      let _ ← env.int updatedAt
      return some { skillName := env.str skillName, markdown := env.str markdown }

/-- Missing skills are skipped. -/
def loadedSkills (table : Table) (orgId skillsConfig : Attr) : Except PyError (List Skill) :=
  if skillsConfig.truthy = false then .ok []
  else do
    let names ← env.iterate skillsConfig
    let found ← names.mapM (env.getSkill table orgId)
    return found.reduceOption

/-- The system prompt of a bot with skills ends in its strategy, stripped. -/
def checkPrompt (skills : List Skill) : Attr → Except PyError Unit
  | .null | .bool _ | .number _ | .list _ | .map _ =>
      if skills = [] then .ok () else .error (.attributeError "strip")
  | _ => .ok ()

/-- The model a bot runs on. An unknown id that was saved all the same falls back to
the default, so that the bot does not crash. -/
def resolvedModel (modelId : String) : String :=
  (Models.resolveModelId modelId).getD Models.defaultModelId

/-- Every bot runs on a listed model. -/
theorem resolvedModel_mem (modelId : String) : resolvedModel modelId ∈ Models.allowlist := by
  unfold resolvedModel
  cases resolved : Models.resolveModelId modelId with
  | none => exact List.mem_cons_self
  | some model => exact Models.mem_of_resolveModelId resolved

/-- The bot of a row. -/
def strategyBot (table : Table) (botId : BotId) (orgId markdown : Attr) (row : Item) :
    Except PyError StrategyBot := do
  let configs ← env.toolConfigModels ((row.attr? "tools").getD (.map []))
  let skills ← env.loadedSkills table orgId ((row.attr? "skills").getD (.list []))
  let _ ← checkPrompt skills markdown
  let bot : StrategyBot :=
    { botId, orgId, skills
      strategyPrompt := markdown
      symbols := row.symbols
      model :=
        let modelId := (row.attr? "model_id").getD (.text "")
        resolvedModel (if modelId.truthy = true then env.str modelId else "")
      tools := boundTools configs
      calendarEnabled := enabled configs "calendar"
      taEnabled := enabled configs "ta"
      strategyName := env.str ((row.attr? "name").getD (.text "")) }
  let _ ← env.agent bot
  return bot

end PollEnv

/-- The ledger a bot is given: the one of its snapshot or a fresh one, whose
capital has to be a finite number. -/
def System.openLedger (system : System β) (botId : BotId) : Numeral → Except PyError Ledger
  | .finite capital => system.restoredLedger botId capital
  | _ =>
      match system.coordinator.ledgerStore with
      | none => .error (.valueError [.text "capital must be a finite number"])
      | some _ =>
          match LedgerStore.loadSnapshot system.table botId with
          | .error error => .error error
          | .ok (some ledger) => .ok ledger
          | .ok none => .error (.valueError [.text "capital must be a finite number"])

/-! ### The orchestrator's entries -/

namespace Registry

/-- Booleans and integers are read from values of their own kind. -/
def plainEnv : PollEnv where
  render _ := ""
  scalars :=
    { bool? := fun value => match value with | .bool flag => some flag | _ => none
      int? := fun value => match value with | .number count => some count | _ => none }
  agent _ := .ok ()

/-- `watched.update(symbols)`: what comes before the first item that cannot be in
a set is added. -/
def updateWatched (env : PollEnv) (watched : List Attr) (symbols : Attr) :
    List Attr × Except PyError Unit :=
  match env.iterate symbols with
  | .error error => (watched, .error error)
  | .ok items =>
      (watched ∪ items.takeWhile Attr.hashable,
        if items.all Attr.hashable = true then .ok () else .error (.typeError "unhashable type"))

/-- Register a bot with its watched symbols. -/
def registerBot (env : PollEnv) (registry : Registry β) (botId : BotId)
    (registration : Registration) : Registry β × Except PyError Unit :=
  let updated := updateWatched env registry.watched registration.symbols
  ({ registry with bots := registry.bots.set botId registration, watched := updated.1 }, updated.2)

/-- The symbols of the bots, one bot after the other. -/
def watchAll (env : PollEnv) (watched : List Attr) :
    List Registration → List Attr × Except PyError Unit
  | [] => (watched, .ok ())
  | registration :: rest =>
      match updateWatched env watched registration.symbols with
      | (watched, .error error) => (watched, .error error)
      | (watched, .ok ()) => watchAll env watched rest

/-- Remove a bot and recalculate watched symbols. -/
def unregisterBot (env : PollEnv) (registry : Registry β) (botId : BotId) :
    Registry β × Except PyError Unit :=
  let bots := registry.bots.erase botId
  let recalculated := watchAll env [] bots.values
  ({ registry with bots, watched := recalculated.1 }, recalculated.2)

/-- Create the bot of a row and register it. -/
def registerStrategy (env : PollEnv) (registry : Registry β) (botId : BotId) (orgId : Attr)
    (row : Item) : Registry β × Except PyError Unit :=
  match env.decimal ((row.attr? "capital").getD (.text "1000")), row.required "markdown" with
  | .error error, _ => (registry, .error error)
  | .ok _, .error error => (registry, .error error)
  | .ok capital, .ok markdown =>
      match registry.system.openLedger botId capital with
      | .error error => (registry, .error error)
      | .ok ledger =>
          let opened := { registry with system := registry.system.setLedger botId ledger }
          match env.strategyBot opened.system.table botId orgId markdown row with
          | .error error => (opened, .error error)
          | .ok _ => opened.registerBot env botId { symbols := row.symbols, fromRow := true }

/-! ### What a registration comes to -/

/-- The same table and the same ledger store. -/
structure SameStores (before after : Registry β) : Prop where
  table : after.system.table = before.system.table
  ledgerStore : after.system.coordinator.ledgerStore = before.system.coordinator.ledgerStore

theorem SameStores.refl (registry : Registry β) : registry.SameStores registry := ⟨rfl, rfl⟩

theorem SameStores.trans {before middle after : Registry β} (first : before.SameStores middle)
    (second : middle.SameStores after) : before.SameStores after :=
  ⟨second.table.trans first.table, second.ledgerStore.trans first.ledgerStore⟩

/-- The symbols can all be watched. -/
def watches (env : PollEnv) (symbols : Attr) : Except PyError Unit := (updateWatched env [] symbols).2

theorem snd_updateWatched (env : PollEnv) (watched : List Attr) (symbols : Attr) :
    (updateWatched env watched symbols).2 = watches env symbols := by
  unfold watches updateWatched
  cases env.iterate symbols <;> rfl

/-- What a registration does before the bot is entered. -/
def prepare (env : PollEnv) (registry : Registry β) (botId : BotId) (orgId : Attr) (row : Item) :
    Except PyError StrategyBot := do
  let capital ← env.decimal ((row.attr? "capital").getD (.text "1000"))
  let markdown ← row.required "markdown"
  let _ ← registry.system.openLedger botId capital
  env.strategyBot registry.system.table botId orgId markdown row

/-- Preparing depends on the row and the stores. -/
theorem SameStores.prepare {before after : Registry β} (same : before.SameStores after)
    (env : PollEnv) (botId : BotId) (orgId : Attr) (row : Item) :
    after.prepare env botId orgId row = before.prepare env botId orgId row := by
  have ledger : after.system.openLedger botId = before.system.openLedger botId := by
    funext capital
    unfold System.openLedger System.restoredLedger
    rw [same.table, same.ledgerStore]
  unfold Registry.prepare
  rw [ledger, same.table]

theorem sameStores_registerStrategy (env : PollEnv) (registry : Registry β) (botId : BotId)
    (orgId : Attr) (row : Item) :
    registry.SameStores (registry.registerStrategy env botId orgId row).1 := by
  unfold registerStrategy
  split
  · exact SameStores.refl registry
  · exact SameStores.refl registry
  · split
    · exact SameStores.refl registry
    · dsimp only
      split <;> exact ⟨rfl, rfl⟩

/-- A registration that raises on the way enters no bot. -/
theorem registerStrategy_of_prepare_error {env : PollEnv} {registry : Registry β} {botId : BotId}
    {orgId : Attr} {row : Item} {error : PyError}
    (raised : registry.prepare env botId orgId row = .error error) :
    (registry.registerStrategy env botId orgId row).1.bots = registry.bots ∧
      (registry.registerStrategy env botId orgId row).2 = .error error := by
  unfold prepare at raised
  unfold registerStrategy
  cases capital : env.decimal ((row.attr? "capital").getD (.text "1000")) with
  | error first =>
      rw [capital] at raised
      cases raised
      exact ⟨rfl, rfl⟩
  | ok value =>
      rw [capital] at raised
      cases markdown : row.required "markdown" with
      | error second =>
          rw [markdown] at raised
          cases raised
          exact ⟨rfl, rfl⟩
      | ok text =>
          rw [markdown] at raised
          dsimp only
          cases ledger : registry.system.openLedger botId value with
          | error third =>
              change (registry.system.openLedger botId value >>= _) = _ at raised
              rw [ledger] at raised
              cases raised
              exact ⟨rfl, rfl⟩
          | ok opened =>
              change (registry.system.openLedger botId value >>= fun _ =>
                env.strategyBot registry.system.table botId orgId text row) = _ at raised
              rw [ledger] at raised
              change env.strategyBot registry.system.table botId orgId text row = _ at raised
              have later : env.strategyBot (registry.system.setLedger botId opened).table botId orgId
                  text row = .error error := raised
              dsimp only
              rw [later]
              exact ⟨rfl, rfl⟩

/-- Once everything is prepared the bot is entered, whether or not its symbols
can be watched. -/
theorem registerStrategy_of_prepare_ok {env : PollEnv} {registry : Registry β} {botId : BotId}
    {orgId : Attr} {row : Item} {bot : StrategyBot}
    (prepared : registry.prepare env botId orgId row = .ok bot) :
    (registry.registerStrategy env botId orgId row).1.bots =
        registry.bots.set botId { symbols := row.symbols, fromRow := true } ∧
      (registry.registerStrategy env botId orgId row).2 = watches env row.symbols := by
  obtain ⟨capital, reads, prepared⟩ := bind_ok_iff.mp prepared
  obtain ⟨markdown, present, prepared⟩ := bind_ok_iff.mp prepared
  obtain ⟨ledger, opened, built⟩ := bind_ok_iff.mp prepared
  have later : env.strategyBot (registry.system.setLedger botId ledger).table botId orgId markdown
      row = .ok bot := built
  unfold registerStrategy
  rw [reads, present]
  dsimp only
  rw [opened]
  dsimp only
  rw [later]
  exact ⟨rfl, snd_updateWatched env _ _⟩

end Registry

end TradingStrands
