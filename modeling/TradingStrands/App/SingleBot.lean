import TradingStrands.App.StrategyPoll
import TradingStrands.Ddb.Schema

/-!
Owns what a bot is configured with in the two deployments: a task that runs the
one strategy it is started for, and a process that loads every active strategy,
at its start and whenever it polls. Each reads a strategy's row with defaults of
its own.

A row has the attributes that its store gives it, and any of the optional ones
may be missing. Lists of pairs, which a row has no attribute for, are not read as
maps.
-/

namespace TradingStrands

open TradingStrands.Foundation

variable {β : Type}

/-- What a strategy is registered with. -/
structure BotConfig where
  botId : BotId
  orgId : Attr
  strategyPrompt : Attr
  symbols : Attr
  capital : Numeral
  tools : Attr
  skills : Attr
  name : String
  modelId : String
deriving DecidableEq

namespace PollEnv

variable (env : PollEnv)

/-! ### Many strategies -/

/-- The configuration of a row, of the bot and organisation that it names. -/
def rowConfig (botId : BotId) (orgId : Attr) (row : Item) : Except PyError BotConfig := do
  let capital ← env.decimal ((row.attr? "capital").getD (.text "1000"))
  let strategyPrompt ← row.required "markdown"
  return { botId, orgId, strategyPrompt, capital
           symbols := row.symbols
           tools := (row.attr? "tools").getD (.map [])
           skills := (row.attr? "skills").getD (.list [])
           name := env.str ((row.attr? "name").getD (.text ""))
           modelId :=
             let modelId := (row.attr? "model_id").getD (.text "")
             if modelId.truthy = true then env.str modelId else "" }

/-- What the start and the poll load from a row; nothing from one that is not
active, or has no organisation. -/
def loadRow (row : Item) : Except PyError (Option BotConfig) :=
  if row.IsActive then
    match env.strategyBotId? row with
    | none => .error (.keyError "strategy_id")
    | some botId =>
        match row.orgId? with
        | none => .ok none
        | some orgId => (env.rowConfig botId orgId row).map some
  else .ok none

/-! ### One strategy -/

/-- `value or default` -/
def orElse (value default : Attr) : Attr := if value.truthy = true then value else default

/-- `dict(value)`. -/
def dict : Attr → Except PyError Attr
  | .map fields => .ok (.map fields)
  | _ => .error (.typeError "cannot convert to a dict")

/-- `list(value)`. -/
def list (value : Attr) : Except PyError Attr := (env.iterate value).map Attr.list

/-- The configuration of the strategy that a task is started for. The checks fail
closed; `repr` quotes an organisation in their messages. -/
def loadSingleBotConfig (repr : String → String) (table : Table) (strategyId : String)
    (orgId : OrgId) : Except PyError BotConfig :=
  if strategyId = "" then .error (.runtimeError "STRATEGY_ID required for single-bot mode")
  else if orgId = "" then .error (.runtimeError "ORG_ID required alongside STRATEGY_ID")
  else
    match table.getItem ("STRATEGY#" ++ strategyId) with
    | none => .error (.runtimeError ("strategy " ++ strategyId ++ " not found"))
    | some item =>
        let actualOrg := env.str ((item.attr? "org_id").getD (.text ""))
        let status := env.str ((item.attr? "status").getD (.text ""))
        if actualOrg ≠ orgId then
          .error (.runtimeError ("strategy " ++ strategyId ++ " org_id mismatch: task has ORG_ID=" ++
            repr orgId ++ ", strategy has " ++ repr actualOrg))
        else if status ≠ "active" then
          .error (.runtimeError ("strategy " ++ strategyId ++ " not active (status=" ++ repr status ++
            ")"))
        else do
          let symbols ← env.list
            (orElse ((item.attr? "symbols").getD (.list [])) (.list [.text "AAPL"]))
          let capital ← env.decimal (.text (env.str ((item.attr? "capital").getD (.text "1000"))))
          let tools ← dict (orElse ((item.attr? "tools").getD (.map [])) (.map []))
          let skills ← env.list (orElse ((item.attr? "skills").getD (.list [])) (.list []))
          return { botId := "strategy-" ++ strategyId, orgId := .text orgId
                   strategyPrompt := .text (env.str ((item.attr? "markdown").getD (.text "")))
                   symbols, capital, tools, skills
                   name := env.str ((item.attr? "name").getD (.text ""))
                   modelId := env.str (orElse ((item.attr? "model_id").getD (.text "")) (.text "")) }

/-! ### What a configuration is for -/

/-- The bot of a configuration. -/
def configuredBot (table : Table) (config : BotConfig) : Except PyError StrategyBot := do
  let configs ← env.toolConfigModels config.tools
  let skills ← env.loadedSkills table config.orgId config.skills
  let _ ← checkPrompt skills config.strategyPrompt
  let bot : StrategyBot :=
    { botId := config.botId, orgId := config.orgId, skills
      strategyPrompt := config.strategyPrompt
      symbols := config.symbols
      model := resolvedModel config.modelId
      tools := boundTools configs
      calendarEnabled := enabled configs "calendar"
      taEnabled := enabled configs "ta"
      strategyName := config.name }
  let _ ← env.agent bot
  return bot

end PollEnv

namespace Registry

/-- Register the bot of a configuration. -/
def register (env : PollEnv) (registry : Registry β) (config : BotConfig) :
    Registry β × Except PyError Unit :=
  match registry.system.openLedger config.botId config.capital with
  | .error error => (registry, .error error)
  | .ok ledger =>
      let opened := { registry with system := registry.system.setLedger config.botId ledger }
      match env.configuredBot opened.system.table config with
      | .error error => (opened, .error error)
      | .ok _ =>
          opened.registerBot env config.botId { symbols := config.symbols, fromRow := true }

/-- A row is registered by its configuration, and by nothing else of it. -/
theorem registerStrategy_eq (env : PollEnv) (registry : Registry β) (botId : BotId) (orgId : Attr)
    (row : Item) :
    registry.registerStrategy env botId orgId row =
      match env.rowConfig botId orgId row with
      | .error error => (registry, .error error)
      | .ok config => registry.register env config := by
  unfold registerStrategy PollEnv.rowConfig
  cases env.decimal ((row.attr? "capital").getD (.text "1000")) with
  | error error => rfl
  | ok capital =>
      cases row.required "markdown" with
      | error error => rfl
      | ok markdown => rfl

/-- One row at the start of a process that loads every row. -/
def startRow (env : PollEnv) (registry : Registry β) (row : Item) :
    Registry β × Except PyError Unit :=
  match env.loadRow row with
  | .error error => (registry, .error error)
  | .ok none => (registry, .ok ())
  | .ok (some config) => registry.register env config

/-- The start: one row after the other, until one raises, which ends the process. -/
def startRows (env : PollEnv) (registry : Registry β) : List Item → Registry β × Except PyError Unit
  | [] => (registry, .ok ())
  | row :: rest =>
      match registry.startRow env row with
      | (registry, .error error) => (registry, .error error)
      | (registry, .ok ()) => registry.startRows env rest

/-- The poll takes a row whose bot is new as the start does. -/
theorem visitRow_eq_startRow {env : PollEnv} {registry : Registry β} {activeIds : List BotId}
    {row : Item} (new : ∀ botId, activeBotId? env row = some botId → botId ∉ registry.bots.keys) :
    ((registry.visitRow env activeIds row).1, (registry.visitRow env activeIds row).2.2) =
      registry.startRow env row := by
  unfold visitRow startRow PollEnv.loadRow
  by_cases active : row.IsActive
  · rw [if_pos active, if_pos active]
    cases own : env.strategyBotId? row with
    | none => rfl
    | some botId =>
        dsimp only
        cases org : row.orgId? with
        | none => rfl
        | some orgId =>
            have eligible := activeBotId?_eq_some_iff.mpr ⟨active, by rw [org]; rfl, own⟩
            dsimp only
            rw [if_neg (new botId eligible), registerStrategy_eq]
            cases env.rowConfig botId orgId row <;> rfl
  · rw [if_neg active, if_neg active]

/-- A row adds no bot but its own. -/
theorem mem_keys_visitRow {env : PollEnv} {registry : Registry β} {activeIds : List BotId}
    {row : Item} {botId : BotId}
    (member : botId ∈ (registry.visitRow env activeIds row).1.bots.keys) :
    botId ∈ registry.bots.keys ∨ activeBotId? env row = some botId := by
  cases active : activeBotId? env row with
  | none =>
      by_cases missing : row.IsActive ∧ env.strategyBotId? row = none
      · rw [visitRow_of_missing registry activeIds missing.1 missing.2] at member
        exact .inl member
      · rw [visitRow_of_skipped registry activeIds active fun isActive absent =>
          missing ⟨isActive, absent⟩] at member
        exact .inl member
  | some own =>
      rw [visitRow_of_active registry activeIds active] at member
      split at member
      · exact .inl member
      · rcases mem_keys_registerStrategy_iff.mp member with ⟨same, _⟩ | old
        · exact .inr (congrArg some same.symm)
        · exact .inl old

/-- On rows of different bots, none of them registered yet, the poll does what the
start does. -/
theorem visitRows_eq_startRows {env : PollEnv} {rows : List Item} {registry : Registry β}
    {activeIds : List BotId}
    (new : ∀ botId ∈ rows.filterMap (activeBotId? env), botId ∉ registry.bots.keys)
    (different : (rows.filterMap (activeBotId? env)).Nodup) :
    ((registry.visitRows env activeIds rows).1, (registry.visitRows env activeIds rows).2.2) =
      registry.startRows env rows := by
  induction rows generalizing registry activeIds with
  | nil => rfl
  | cons row rest inductionHypothesis =>
      have here := @visitRow_eq_startRow _ env registry activeIds row fun botId own =>
        new botId (List.mem_filterMap.mpr ⟨row, List.mem_cons_self, own⟩)
      unfold visitRows startRows
      rw [← here]
      rcases step : registry.visitRow env activeIds row with ⟨visited, laterIds, error | done⟩
      · rfl
      · have kept : ∀ botId ∈ visited.bots.keys,
            botId ∈ registry.bots.keys ∨ activeBotId? env row = some botId := by
          intro botId member
          refine @mem_keys_visitRow _ env registry activeIds row botId ?_
          rw [step]
          exact member
        refine inductionHypothesis ?_ ?_
        · intro botId later member
          rcases kept botId member with old | own
          · obtain ⟨other, inside, named⟩ := List.mem_filterMap.mp later
            exact new botId (List.mem_filterMap.mpr ⟨other, List.mem_cons_of_mem _ inside, named⟩) old
          · rw [List.filterMap_cons_some own] at different
            exact (List.nodup_cons.mp different).1 later
        · exact different.sublist ((List.sublist_cons_self row rest).filterMap _)

end Registry

/-! ### Active rows -/

namespace Attr

def isList : Attr → Bool
  | .list _ => true
  | _ => false

def isMap : Attr → Bool
  | .map _ => true
  | _ => false

theorem text_of_isText {value : Option Attr} (accepted : optional isText value = true) :
    value = none ∨ ∃ text, value = some (.text text) := by
  cases value with
  | none => exact .inl rfl
  | some attr =>
      cases attr with
      | text text => exact .inr ⟨text, rfl⟩
      | _ => cases accepted

theorem list_of_isList {value : Option Attr} (accepted : optional isList value = true) :
    value = none ∨ ∃ items, value = some (.list items) := by
  cases value with
  | none => exact .inl rfl
  | some attr =>
      cases attr with
      | list items => exact .inr ⟨items, rfl⟩
      | _ => cases accepted

theorem map_of_isMap {value : Option Attr} (accepted : optional isMap value = true) :
    value = none ∨ ∃ fields, value = some (.map fields) := by
  cases value with
  | none => exact .inl rfl
  | some attr =>
      cases attr with
      | map fields => exact .inr ⟨fields, rfl⟩
      | _ => cases accepted

end Attr

/-- An active strategy's row: it names its organisation, and what it has of the
rest is of the kind that is stored. The attribute `strategy_id` may hold anything,
or be missing. -/
structure ActiveRow where
  item : Item
  /-- What the row's key ends in, and the strategy a task for the row is started for. -/
  strategyId : String
  orgId : OrgId
  orgNamed : orgId ≠ ""
  hasOrgId : item.attr? "org_id" = some (.text orgId)
  active : item.IsActive
  markdown : Attr.optional Attr.isText (item.attr? "markdown") = true
  symbols : Attr.optional Attr.isList (item.attr? "symbols") = true
  capital : Attr.optional Attr.isText (item.attr? "capital") = true
  tools : Attr.optional Attr.isMap (item.attr? "tools") = true
  skills : Attr.optional Attr.isList (item.attr? "skills") = true

namespace ActiveRow

variable (env : PollEnv) (repr : String → String) (table : Table) (row : ActiveRow)

/-- The table with the row under its strategy's key. -/
def storedIn : Table := table.putItem ("STRATEGY#" ++ row.strategyId) row.item

/-- The configuration in a task that is started for the strategy and its
organisation, nothing if the task refuses the row. -/
def single? : Option BotConfig :=
  (env.loadSingleBotConfig repr (row.storedIn table) row.strategyId row.orgId).toOption

/-- The configuration in a process that loads every row, nothing if it skips or
refuses this one. -/
def loaded? : Option BotConfig := (env.loadRow row.item).toOption.join

/-- The capital of the row; without one it is a thousand. -/
def capitalOf : Except PyError Numeral :=
  env.decimal ((row.item.attr? "capital").getD (.text "1000"))

/-- The row names the strategy it is stored for, and has a prompt; its symbols are
missing or some. -/
def Complete : Prop :=
  row.strategyId ≠ "" ∧ env.strategyBotId? row.item = some ("strategy-" ++ row.strategyId) ∧
    row.item.attr? "markdown" ≠ none ∧ row.item.attr? "symbols" ≠ some (.list [])

/-- The capital cannot be read; or the row is stored for no strategy, and lacks what
a process that loads every row needs. -/
def Refused : Prop :=
  (row.capitalOf env).toOption = none ∨
    row.strategyId = "" ∧
      (row.item.attr? "strategy_id" = none ∨ row.item.attr? "markdown" = none)

instance : Decidable (row.Complete env) := inferInstanceAs (Decidable (_ ∧ _))

instance : Decidable (row.Refused env) := inferInstanceAs (Decidable (_ ∨ _))

variable {env repr table row}

theorem loaded?_eq : row.loaded? env = (env.strategyBotId? row.item).bind fun botId =>
    (env.rowConfig botId (.text row.orgId) row.item).toOption := by
  have owned : row.item.orgId? = some (.text row.orgId) := by
    unfold Item.orgId?
    rw [row.hasOrgId]
    exact if_pos (decide_eq_true row.orgNamed)
  unfold loaded? PollEnv.loadRow
  rw [if_pos row.active]
  cases env.strategyBotId? row.item with
  | none => rfl
  | some botId =>
      dsimp only
      rw [owned]
      dsimp only [Option.bind_some]
      cases env.rowConfig botId (.text row.orgId) row.item <;> rfl

/-- The symbols, those of a row without any being a default. -/
theorem list_symbols : env.list (PollEnv.orElse ((row.item.attr? "symbols").getD (.list []))
    (.list [.text "AAPL"])) =
      .ok (if row.item.attr? "symbols" = some (.list []) then .list [.text "AAPL"]
        else row.item.symbols) := by
  unfold Item.symbols
  rcases Attr.list_of_isList row.symbols with missing | ⟨items, given⟩
  · rw [missing]
    rfl
  · rw [given]
    cases items <;> rfl

theorem list_skills : env.list (PollEnv.orElse ((row.item.attr? "skills").getD (.list []))
    (.list [])) = .ok ((row.item.attr? "skills").getD (.list [])) := by
  rcases Attr.list_of_isList row.skills with missing | ⟨items, given⟩
  · rw [missing]
    rfl
  · rw [given]
    cases items <;> rfl

theorem dict_tools : PollEnv.dict (PollEnv.orElse ((row.item.attr? "tools").getD (.map []))
    (.map [])) = .ok ((row.item.attr? "tools").getD (.map [])) := by
  rcases Attr.map_of_isMap row.tools with missing | ⟨fields, given⟩
  · rw [missing]
    rfl
  · rw [given]
    cases fields <;> rfl

theorem decimal_capital :
    env.decimal (.text (env.str ((row.item.attr? "capital").getD (.text "1000")))) =
      row.capitalOf env := by
  unfold capitalOf
  rcases Attr.text_of_isText row.capital with missing | ⟨text, given⟩
  · rw [missing]
    rfl
  · rw [given]
    rfl

theorem str_markdown : Attr.text (env.str ((row.item.attr? "markdown").getD (.text ""))) =
    (row.item.attr? "markdown").getD (.text "") := by
  rcases Attr.text_of_isText row.markdown with missing | ⟨text, given⟩
  · rw [missing]
    rfl
  · rw [given]
    rfl

theorem str_orElse (value : Attr) : env.str (PollEnv.orElse value (.text "")) =
    if value.truthy = true then env.str value else "" := by
  unfold PollEnv.orElse
  split <;> rfl

/-- The task that is started for no strategy refuses. -/
theorem single?_of_unnamed (unnamed : row.strategyId = "") : row.single? env repr table = none := by
  unfold single? PollEnv.loadSingleBotConfig
  rw [if_pos unnamed]
  rfl

/-- The single bot is configured by the row where its capital can be read, with
defaults for what is missing or empty. -/
theorem single?_eq (named : row.strategyId ≠ "") :
    row.single? env repr table = (row.capitalOf env).toOption.map fun capital =>
    { botId := "strategy-" ++ row.strategyId, orgId := .text row.orgId, capital
      strategyPrompt := (row.item.attr? "markdown").getD (.text "")
      symbols :=
        if row.item.attr? "symbols" = some (.list []) then .list [.text "AAPL"]
        else row.item.symbols
      tools := (row.item.attr? "tools").getD (.map [])
      skills := (row.item.attr? "skills").getD (.list [])
      name := env.str ((row.item.attr? "name").getD (.text ""))
      modelId :=
        let modelId := (row.item.attr? "model_id").getD (.text "")
        if modelId.truthy = true then env.str modelId else "" } := by
  have stored : (row.storedIn table).getItem ("STRATEGY#" ++ row.strategyId) = some row.item :=
    Table.getItem_putItem_self table _ _
  have owner : env.str ((row.item.attr? "org_id").getD (.text "")) = row.orgId := by
    rw [row.hasOrgId]
    rfl
  have status : env.str ((row.item.attr? "status").getD (.text "")) = "active" := by
    rw [show row.item.attr? "status" = some (.text "active") from row.active]
    rfl
  unfold single? PollEnv.loadSingleBotConfig
  rw [if_neg named, if_neg row.orgNamed, stored]
  dsimp only
  rw [owner, status, if_neg (not_not_intro rfl), if_neg (not_not_intro rfl), list_symbols,
    decimal_capital, dict_tools, list_skills, str_markdown, str_orElse]
  cases row.capitalOf env <;> rfl

/-- The row names its bot exactly where it has the attribute. -/
theorem strategyBotId?_eq_none_iff :
    env.strategyBotId? row.item = none ↔ row.item.attr? "strategy_id" = none := by
  unfold PollEnv.strategyBotId?
  exact Option.map_eq_none_iff

/-- A row whose capital can be read is loaded if it names a bot and has a prompt. -/
theorem loaded?_eq_none_iff {capital : Numeral} (reads : row.capitalOf env = .ok capital) :
    row.loaded? env = none ↔
      row.item.attr? "strategy_id" = none ∨ row.item.attr? "markdown" = none := by
  rw [loaded?_eq, ← @strategyBotId?_eq_none_iff env]
  cases env.strategyBotId? row.item with
  | none => exact iff_of_true rfl (.inl rfl)
  | some botId =>
      rw [or_iff_right (Option.some_ne_none botId), Option.bind_some]
      unfold PollEnv.rowConfig Item.required
      rw [show env.decimal ((row.item.attr? "capital").getD (.text "1000")) = .ok capital from reads]
      cases row.item.attr? "markdown" with
      | none => exact iff_of_true rfl rfl
      | some markdown => exact iff_of_false nofun nofun

/-- On a row with a strategy and a capital the deployments agree if it is complete. -/
theorem alike_iff_complete {capital : Numeral} (reads : row.capitalOf env = .ok capital)
    (named : row.strategyId ≠ "") :
    row.single? env repr table = row.loaded? env ↔ row.Complete env := by
  rw [single?_eq named, loaded?_eq, reads]
  unfold Complete
  rw [and_iff_right named]
  cases own : env.strategyBotId? row.item with
  | none => exact iff_of_false nofun fun complete => Option.some_ne_none _ complete.1.symm
  | some botId =>
      rw [Option.bind_some]
      unfold PollEnv.rowConfig Item.required
      rw [show env.decimal ((row.item.attr? "capital").getD (.text "1000")) = .ok capital from reads]
      cases prompt : row.item.attr? "markdown" with
      | none => exact iff_of_false nofun fun complete => complete.2.1 rfl
      | some markdown =>
          by_cases empty : row.item.attr? "symbols" = some (.list [])
          · refine iff_of_false ?_ fun complete => complete.2.2 empty
            intro same
            have symbols := congrArg BotConfig.symbols (Option.some.inj same)
            dsimp only at symbols
            unfold Item.symbols at symbols
            rw [if_pos empty, empty] at symbols
            cases symbols
          · rw [if_neg empty]
            constructor
            · intro same
              have bots := congrArg BotConfig.botId (Option.some.inj same)
              exact ⟨congrArg some bots.symm, nofun, empty⟩
            · rintro ⟨bots, -, -⟩
              rw [Option.some.inj bots]
              rfl

/-- A row that has no symbols, and nothing else that is out of the ordinary. -/
def withoutSymbols : ActiveRow where
  item := [("strategy_id", .text "s1"), ("org_id", .text "org"), ("status", .text "active"),
    ("markdown", .text "buy low"), ("symbols", .list []), ("capital", .text "5000")]
  strategyId := "s1"
  orgId := "org"
  orgNamed := by decide
  hasOrgId := by decide
  active := by decide
  markdown := by decide
  symbols := by decide
  capital := by decide
  tools := by decide
  skills := by decide

end ActiveRow

end TradingStrands
