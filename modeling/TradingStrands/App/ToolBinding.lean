import TradingStrands.App.Registration
import TradingStrands.OrgTools.Store
import TradingStrands.Tools.Registry

/-!
Owns the tools a strategy's bot is registered with, along both ways of delivery:
functions bound for the agent, and calendar and indicators put into its context.
A bot is given what its strategy enables and its process can deliver; the rows
that make a tool available to an organisation are not read.

Does not own: the rest of the registration, which leaves the tools as they are
and may still raise.
-/

namespace TradingStrands

open TradingStrands.Foundation

/-- Which of its optional handles a process has. -/
structure ToolHandles where
  toolsTable : Bool
  toolsSecretsClient : Bool
  calendarStore : Bool
  taStore : Bool
deriving DecidableEq, Repr

/-- What a bot is constructed with for its tools. -/
structure BotTools where
  tools : List BoundTool
  calendarEnabled : Bool
  taEnabled : Bool
deriving DecidableEq, Repr

namespace ToolBinding

def toolCallNames : List String := ["news", "filings", "social"]

/-- The tools part of `_register_strategy`. -/
def botTools (env : PollEnv) (handles : ToolHandles) (botId : BotId) (orgId : OrgId)
    (toolsConfig : Attr) : Except PyError BotTools := do
  let configs ← env.toolConfigModels toolsConfig
  let bound ←
    if handles.toolsTable = true ∧ handles.toolsSecretsClient = true then do
      let registry ← buildDefaultRegistry
      pure (bindToolsForStrategy registry (configs.filter fun entry => entry.1 ∈ toolCallNames)
        ⟨botId, orgId⟩).flatten
    else pure []
  return { tools := bound
           calendarEnabled := PollEnv.enabled configs "calendar"
           taEnabled := PollEnv.enabled configs "ta" }

/-- A tool reaches the bot, as a function or in its context. A context section
needs the store and the switch. -/
def Given (handles : ToolHandles) (bot : BotTools) (toolName : String) : Prop :=
  (∃ tool ∈ bot.tools, tool.function.toolName = toolName) ∨
    toolName = "calendar" ∧ handles.calendarStore = true ∧ bot.calendarEnabled = true ∨
      toolName = "ta" ∧ handles.taStore = true ∧ bot.taEnabled = true

/-- What the process can deliver at all. -/
def Deliverable (handles : ToolHandles) (toolName : String) : Prop :=
  toolName ∈ toolCallNames ∧ handles.toolsTable = true ∧ handles.toolsSecretsClient = true ∨
    toolName = "calendar" ∧ handles.calendarStore = true ∨
      toolName = "ta" ∧ handles.taStore = true

/-- A bot is given a tool only if its strategy enables it and its organisation
has made it available. -/
def Gated (env : PollEnv) (handles : ToolHandles) (table : Table) (botId : BotId) (orgId : OrgId)
    (toolsConfig : Attr) : Prop :=
  ∀ configs bot, env.toolConfigModels toolsConfig = .ok configs →
    botTools env handles botId orgId toolsConfig = .ok bot →
      ∀ toolName, Given handles bot toolName →
        PollEnv.enabled configs toolName = true ∧
          OrgToolsStore.isEnabled table orgId toolName = true

variable {env : PollEnv} {handles : ToolHandles} {table : Table} {botId : BotId} {orgId : OrgId}
  {toolsConfig : Attr} {configs : List (String × StrategyToolConfig)}

theorem enabled_iff {toolName : String} :
    PollEnv.enabled configs toolName = true ↔
      ∃ entry ∈ configs, entry.2.enabled = true ∧ entry.1 = toolName := by
  unfold PollEnv.enabled
  rw [List.any_eq_true]
  simp only [decide_eq_true_eq]
  exact exists_congr fun entry => and_congr_right fun _ => and_comm

theorem toolName_mem (function : ToolFunction) : function.toolName ∈ toolCallNames := by
  cases function <;> decide

theorem exists_function {toolName : String} (called : toolName ∈ toolCallNames) :
    ∃ function : ToolFunction, function.toolName = toolName := by
  simp only [toolCallNames, List.mem_cons, List.not_mem_nil, or_false] at called
  obtain rfl | rfl | rfl := called
  · exact ⟨.fetchNews, rfl⟩
  · exact ⟨.readFiling, rfl⟩
  · exact ⟨.fetchSocial, rfl⟩

/-- A configuration that reads gives a bot tools. -/
theorem exists_botTools (handles : ToolHandles) (botId : BotId) (orgId : OrgId)
    (reads : env.toolConfigModels toolsConfig = .ok configs) :
    ∃ bot, botTools env handles botId orgId toolsConfig = .ok bot := by
  obtain ⟨registry, built, -⟩ := exists_buildDefaultRegistry
  unfold botTools
  rw [reads]
  by_cases both : handles.toolsTable = true ∧ handles.toolsSecretsClient = true
  · simp only [both, built, and_self, if_true]
    exact ⟨_, rfl⟩
  · simp only [both, if_false]
    exact ⟨_, rfl⟩

/-- The functions and switches of a registered bot. -/
theorem botTools_ok (reads : env.toolConfigModels toolsConfig = .ok configs) {bot : BotTools}
    (registers : botTools env handles botId orgId toolsConfig = .ok bot) :
    bot.calendarEnabled = PollEnv.enabled configs "calendar" ∧
      bot.taEnabled = PollEnv.enabled configs "ta" ∧
        ∀ tool, tool ∈ bot.tools ↔
          (handles.toolsTable = true ∧ handles.toolsSecretsClient = true) ∧
            PollEnv.enabled configs tool.function.toolName = true ∧
              tool.context = ⟨botId, orgId⟩ ∧ tool.dailyQuota = 50 := by
  obtain ⟨registry, built, -⟩ := exists_buildDefaultRegistry
  unfold botTools at registers
  rw [reads] at registers
  by_cases both : handles.toolsTable = true ∧ handles.toolsSecretsClient = true
  · simp only [both, built, and_self, if_true] at registers
    cases registers
    refine ⟨rfl, rfl, fun tool => ?_⟩
    dsimp only
    rw [mem_bound_iff built, enabled_iff]
    simp only [List.mem_filter, decide_eq_true_eq]
    constructor
    · rintro ⟨⟨entry, ⟨member, -⟩, enabled, named⟩, owner, limit⟩
      exact ⟨both, ⟨entry, member, enabled, named⟩, owner, limit⟩
    · rintro ⟨-, ⟨entry, member, enabled, named⟩, owner, limit⟩
      exact ⟨⟨entry, ⟨member, named ▸ toolName_mem tool.function⟩, enabled, named⟩, owner, limit⟩
  · simp only [both, if_false] at registers
    cases registers
    refine ⟨rfl, rfl, fun tool => ?_⟩
    exact iff_of_false List.not_mem_nil fun all => both all.1

/-- A bot is given exactly what its strategy enables and its process can deliver. -/
theorem given_iff (reads : env.toolConfigModels toolsConfig = .ok configs) {bot : BotTools}
    (registers : botTools env handles botId orgId toolsConfig = .ok bot) (toolName : String) :
    Given handles bot toolName ↔
      Deliverable handles toolName ∧ PollEnv.enabled configs toolName = true := by
  obtain ⟨calendar, ta, bound⟩ := botTools_ok reads registers
  unfold Given Deliverable
  rw [calendar, ta]
  constructor
  · rintro (⟨tool, member, rfl⟩ | ⟨rfl, wired, enabled⟩ | ⟨rfl, wired, enabled⟩)
    · obtain ⟨both, enabled, -⟩ := (bound tool).mp member
      exact ⟨.inl ⟨toolName_mem tool.function, both⟩, enabled⟩
    · exact ⟨.inr (.inl ⟨rfl, wired⟩), enabled⟩
    · exact ⟨.inr (.inr ⟨rfl, wired⟩), enabled⟩
  · rintro ⟨⟨called, both⟩ | ⟨rfl, wired⟩ | ⟨rfl, wired⟩, enabled⟩
    · obtain ⟨function, rfl⟩ := exists_function called
      exact .inl ⟨⟨function, ⟨botId, orgId⟩, 50⟩, (bound _).mpr ⟨both, enabled, rfl, rfl⟩, rfl⟩
    · exact .inr (.inl ⟨rfl, wired, enabled⟩)
    · exact .inr (.inr ⟨rfl, wired, enabled⟩)

/-- A process with every handle. -/
def allHandles : ToolHandles := ⟨true, true, true, true⟩

/-- The bot of a strategy row has these tools. -/
theorem strategyBot_botTools {table : Table} {orgAttr markdown : Attr} {row : Item}
    {bot : StrategyBot} (orgId : OrgId)
    (built : env.strategyBot table botId orgAttr markdown row = .ok bot) :
    ∃ given, botTools env allHandles botId orgId ((row.attr? "tools").getD (.map [])) = .ok given ∧
      bot.calendarEnabled = given.calendarEnabled ∧ bot.taEnabled = given.taEnabled ∧
        ∀ name, name ∈ bot.tools ↔ ∃ tool ∈ given.tools, tool.function.toolName = name := by
  unfold PollEnv.strategyBot at built
  obtain ⟨configs, reads, built⟩ := bind_ok_iff.mp built
  obtain ⟨skills, -, built⟩ := bind_ok_iff.mp built
  obtain ⟨-, -, built⟩ := bind_ok_iff.mp built
  obtain ⟨-, -, built⟩ := bind_ok_iff.mp built
  cases built
  obtain ⟨given, registers⟩ := exists_botTools allHandles botId orgId reads
  obtain ⟨calendar, ta, bound⟩ := botTools_ok reads registers
  refine ⟨given, registers, calendar.symm, ta.symm, fun name => ?_⟩
  have named : name ∈ PollEnv.boundTools configs ↔
      name ∈ toolCallNames ∧ PollEnv.enabled configs name = true := by
    rw [enabled_iff]
    simp only [PollEnv.boundTools, toolCallNames, List.mem_map, List.mem_filter, decide_eq_true_eq]
    constructor
    · rintro ⟨entry, ⟨member, called, enabled⟩, rfl⟩
      exact ⟨called, entry, member, enabled, rfl⟩
    · rintro ⟨called, entry, member, enabled, rfl⟩
      exact ⟨entry, ⟨member, called, enabled⟩, rfl⟩
  refine named.trans ?_
  constructor
  · rintro ⟨called, enabled⟩
    obtain ⟨function, rfl⟩ := exists_function called
    exact ⟨⟨function, ⟨botId, orgId⟩, 50⟩, (bound _).mpr ⟨⟨rfl, rfl⟩, enabled, rfl, rfl⟩, rfl⟩
  · rintro ⟨tool, member, rfl⟩
    exact ⟨toolName_mem tool.function, ((bound tool).mp member).2.1⟩

/-- Tools are gated exactly if every tool that is enabled and can be delivered is
available to the organisation. -/
theorem gated_iff_available (env : PollEnv) (handles : ToolHandles) (table : Table)
    (botId : BotId) (orgId : OrgId) (toolsConfig : Attr) :
    Gated env handles table botId orgId toolsConfig ↔
      ∀ configs, env.toolConfigModels toolsConfig = .ok configs →
        ∀ toolName, Deliverable handles toolName → PollEnv.enabled configs toolName = true →
          OrgToolsStore.isEnabled table orgId toolName = true := by
  constructor
  · intro gated configs reads toolName deliverable enabled
    obtain ⟨bot, registers⟩ := exists_botTools handles botId orgId reads
    exact (gated configs bot reads registers toolName
      ((given_iff reads registers toolName).mpr ⟨deliverable, enabled⟩)).2
  · intro available configs bot reads registers toolName given
    obtain ⟨deliverable, enabled⟩ := (given_iff reads registers toolName).mp given
    exact ⟨enabled, available configs reads toolName deliverable enabled⟩

/-- A strategy enables a tool its organisation has no row for, and gets it. -/
theorem not_gated_missing_row :
    ¬ Gated Registry.plainEnv allHandles Dict.empty "strategy-s" "acme"
      (.map [("news", .map [("enabled", .bool true), ("daily_quota", .number 5)])]) := by
  intro gated
  have news : Given allHandles ⟨[⟨.fetchNews, ⟨"strategy-s", "acme"⟩, 50⟩], false, false⟩ "news" :=
    .inl ⟨_, List.mem_singleton.mpr rfl, rfl⟩
  have available := (gated [("news", ⟨true, 5⟩)] _ (by decide +kernel) (by decide +kernel) "news"
    news).2
  cases available

end ToolBinding

end TradingStrands
