import TradingStrands.Foundation.Runs
import TradingStrands.Tools.Calls

/-!
Owns the guarantee that the quota configured for a tool of a strategy is the limit
its calls are held to. Calls that a cache answers are free: what a quota counts is
the calls of a service and the reads of filings.
-/

namespace TradingStrands.ConfiguredQuota

open TradingStrands.Foundation
open ToolQuotaStore (counter)

def boundTools (registry : ToolRegistry) (toolsConfig : List (String × StrategyToolConfig))
    (context : ToolContext) : List BoundTool :=
  (bindToolsForStrategy registry toolsConfig context).flatten

/-- The counters count from zero. -/
def Counting (table : Table) : Prop :=
  ∀ strategyId date toolName,
    0 ≤ counter table (ToolQuotaStore.pk strategyId date) (ToolCall.quotaAttr toolName)

/-- Each tool has the limit of the entry it is bound from. -/
def LimitsConfigured (registry : ToolRegistry) (toolsConfig : List (String × StrategyToolConfig))
    (context : ToolContext) : Prop :=
  ∀ entry ∈ toolsConfig, entry.2.enabled = true →
    ∀ tool ∈ boundTools registry toolsConfig context, tool.function.toolName = entry.1 →
      tool.dailyQuota = entry.2.dailyQuota

/-- In no run are more calls of a tool served on a day than its entry says. -/
def CallsWithin (registry : ToolRegistry) (toolsConfig : List (String × StrategyToolConfig))
    (context : ToolContext) : Prop :=
  ∀ entry ∈ toolsConfig, entry.2.enabled = true →
    ∀ (table : Table) (calls : List ToolCall) (day : Int), Counting table →
      (∀ call ∈ calls, call.tool ∈ boundTools registry toolsConfig context) →
        countSteps ToolCall.step (ToolCall.servedOn day entry.1) table calls ≤
          entry.2.dailyQuota.toNat

def QuotasEnforced (toolsConfig : List (String × StrategyToolConfig)) (context : ToolContext) :
    Prop :=
  ∀ registry, buildDefaultRegistry = .ok registry →
    LimitsConfigured registry toolsConfig context ∧ CallsWithin registry toolsConfig context

variable {registry : ToolRegistry} {toolsConfig : List (String × StrategyToolConfig)}
  {context : ToolContext}

/-- Calls held to one limit on one counter are served within it. -/
theorem served_le {name : String} {limit day : Int} {table : Table} {calls : List ToolCall}
    (counting : Counting table)
    (held : ∀ call ∈ calls, call.tool.context = context ∧
      (call.tool.function.toolName = name → call.tool.dailyQuota = limit)) :
    countSteps ToolCall.step (ToolCall.servedOn day name) table calls ≤ limit.toNat := by
  -- The gauge is the counter of the day; a call on another day may raise others.
  let key := ToolQuotaStore.pk context.strategyId (isoDate (86400 * day))
  have rises : ∀ (state : Table), ∀ call ∈ calls,
      counter state key (ToolCall.quotaAttr name) ≤
        counter (ToolCall.step state call) key (ToolCall.quotaAttr name) :=
    fun state call _ => ToolCall.counter_le_step call state (ToolQuotaStore.familyOf_pk _ _)
      (ToolCall.quotaAttr_ne_ttl name)
  have spends : ∀ (state : Table), ∀ call ∈ calls,
      ToolCall.servedOn day name state call = true →
        counter state key (ToolCall.quotaAttr name) <
            counter (ToolCall.step state call) key (ToolCall.quotaAttr name) ∧
          counter (ToolCall.step state call) key (ToolCall.quotaAttr name) ≤ limit := by
    intro state call member spent
    obtain ⟨onDay, rfl, served⟩ := of_decide_eq_true spent
    obtain ⟨owner, limited⟩ := held call member
    have here : call.quotaPk = key := by
      have sameDay : isoDate call.env.seconds = isoDate (86400 * day) := by
        rw [isoDate_eq_iff, onDay]
        unfold utcDay
        omega
      unfold ToolCall.quotaPk ToolQuotaStore.todayUtc
      rw [owner, sameDay]
    obtain ⟨raised, within⟩ := ToolCall.spent_of_served served
    rw [here] at raised within
    rw [limited rfl] at within
    omega
  have bounded := countSteps_le_of_gauge ToolCall.step rises spends table
  have initial := counting context.strategyId (isoDate (86400 * day)) name
  have start : 0 ≤ counter table key (ToolCall.quotaAttr name) := initial
  omega

theorem counting_empty : Counting Dict.empty := fun _ _ _ => le_rfl

/-- A call for news that a service answers. -/
def newsCall : ToolCall where
  tool := ⟨.fetchNews, ⟨"strategy-s", "acme"⟩, 50⟩
  env :=
    { now := 1777213997
      upper := id
      client := .ok ()
      validate := .ok
      answer := .ok "[]" }
  argument := "AAPL"

end TradingStrands.ConfiguredQuota
