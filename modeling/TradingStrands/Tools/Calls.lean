import TradingStrands.Foundation.Decimal
import TradingStrands.ToolQuota.Store
import TradingStrands.Tools.Registry

/-!
Owns what happens when an agent calls a bound tool. News and posts come from a
cache as long as its row is fresh; otherwise a unit of quota is reserved before the
service is asked, so a failing request costs one as well. Filings are always read
from stored rows; there the reads themselves are counted against the limit.

What a service or the filings store answers is a parameter, as the text that is
cached and handed to the agent. A call reads the clock once. The metrics a call
emits are not modelled.
-/

namespace TradingStrands

open TradingStrands.Foundation

/-- What a call gets from outside its table. -/
structure ToolCallEnv where
  now : Decimal
  upper : String → String
  /-- The client, made from the organisation's credentials. -/
  client : Except PyError Unit
  /-- Read a cached payload. -/
  validate : String → Except PyError String
  /-- What the service, or the filings store, answers. -/
  answer : Except PyError String

def ToolCallEnv.seconds (env : ToolCallEnv) : Int := env.now.floor

/-- The cache of one tool. -/
structure ToolCache where
  family : String
  emptyPayload : String

namespace ToolCache

def news : ToolCache := ⟨"NEWS", "[]"⟩

def social : ToolCache := ⟨"SOCIAL", "\x7b\x7d"⟩

def freshSeconds : Int := 3600

def rowTtlSeconds : Int := 24 * 3600

variable (cache : ToolCache) (env : ToolCallEnv)

def pk (symbol : String) : String := cache.family ++ "#" ++ (env.upper symbol ++ "#cache")

/-- The cached payload, nothing if there is none or it is stale. -/
def get (table : Table) (symbol : String) : Except PyError (Option String) :=
  match table.getItem (cache.pk env symbol) with
  | none => .ok none
  | some item =>
      let cachedAt := ((item.attr? "cached_at").map Attr.toInt).getD 0
      if freshSeconds < env.now - cachedAt then .ok none
      else
        (env.validate
          (((item.attr? "payload_json").map Attr.toText).getD cache.emptyPayload)).map some

def put (table : Table) (symbol payload : String) : Table :=
  table.putItem (cache.pk env symbol)
    [("symbol", .text (env.upper symbol)), ("cached_at", .number env.seconds),
      ("payload_json", .text payload), ("ttl", .number (env.seconds + rowTtlSeconds))]

end ToolCache

/-- How a call ends. -/
inductive CallOutcome
  | cacheHit (payload : String)
  | served (payload : String)
  | raised (error : ToolError)
deriving DecidableEq, Repr

def CallOutcome.isServed : CallOutcome → Bool
  | .cacheHit _ => false
  | .served _ => true
  | .raised _ => false

/-- A call of a bound tool with a symbol, or the accession of a filing. -/
structure ToolCall where
  tool : BoundTool
  env : ToolCallEnv
  argument : String

namespace ToolCall

variable (call : ToolCall)

def recordCacheHit (table : Table) : Except ToolError Unit × Table :=
  ToolQuotaStore.recordCacheHit table call.tool.context.strategyId call.tool.function.toolName
    call.env.seconds

def reserve (table : Table) : Except ToolError Unit × Table :=
  ToolQuotaStore.reserve table call.tool.context.strategyId call.tool.function.toolName
    call.tool.dailyQuota call.env.seconds

/-- `_run_news_fetch` and `_run_social_fetch`, behind the client they are given. -/
def runFetch (cache : ToolCache) (table : Table) : CallOutcome × Table :=
  let symbol := call.env.upper call.argument
  match call.env.client with
  | .error error => (.raised (.other error), table)
  | .ok () =>
      match cache.get call.env table symbol with
      | .error error => (.raised (.other error), table)
      | .ok (some payload) =>
          match call.recordCacheHit table with
          | (.error error, after) => (.raised error, after)
          | (.ok (), after) => (.cacheHit payload, after)
      | .ok none =>
          match call.reserve table with
          | (.error error, after) => (.raised error, after)
          | (.ok (), after) =>
              match call.env.answer with
              | .error error => (.raised (.other error), after)
              | .ok payload => (.served payload, cache.put call.env after symbol payload)

/-- `_rate_limit_or_raise`. -/
def rateLimit (table : Table) : Except ToolError Unit :=
  let strategyId := call.tool.context.strategyId
  let toolName := call.tool.function.toolName
  let hits := ToolQuotaStore.cacheHitsToday table strategyId toolName call.env.seconds
  if call.tool.dailyQuota ≤ 0 ∨ call.tool.dailyQuota ≤ hits then
    .error (.quotaExceeded ⟨strategyId, toolName, hits, call.tool.dailyQuota⟩)
  else .ok ()

/-- `_run_list_filings` and `_run_read_filing`. -/
def runFilings (table : Table) : CallOutcome × Table :=
  match call.rateLimit table with
  | .error error => (.raised error, table)
  | .ok () =>
      match call.recordCacheHit table with
      | (.error error, after) => (.raised error, after)
      | (.ok (), after) =>
          match call.env.answer with
          | .error error => (.raised (.other error), after)
          | .ok payload => (.served payload, after)

def run (table : Table) : CallOutcome × Table :=
  match call.tool.function with
  | .fetchNews => call.runFetch .news table
  | .listRecentFilings => call.runFilings table
  | .readFiling => call.runFilings table
  | .fetchSocial => call.runFetch .social table

/-- The table after a call. -/
def step (table : Table) (call : ToolCall) : Table := (call.run table).2

/-- Whether a call on the day is served under the name of a tool. -/
def servedOn (day : Int) (toolName : String) (table : Table) (call : ToolCall) : Bool :=
  utcDay call.env.seconds = day ∧ call.tool.function.toolName = toolName ∧
    (call.run table).1.isServed = true

/-- The counter that the calls under a name are held against. -/
def quotaAttr (toolName : String) : String :=
  if toolName = "filings" then ToolQuotaStore.hitsAttr toolName
  else ToolQuotaStore.consumedAttr toolName

theorem quotaAttr_ne_ttl (toolName : String) : quotaAttr toolName ≠ "ttl" := by
  unfold quotaAttr
  split
  · exact ToolQuotaStore.hitsAttr_ne_ttl toolName
  · exact ToolQuotaStore.consumedAttr_ne_ttl toolName

variable {call} {cache : ToolCache} {table : Table}

/-- What a fetch can do: nothing, count a cache hit, fail at or behind the quota,
or be served on a unit of it. -/
theorem runFetch_cases (call : ToolCall) (cache : ToolCache) (table : Table) :
    (∃ error, call.runFetch cache table = (.raised error, table)) ∨
      (∃ outcome, outcome.isServed = false ∧
        call.runFetch cache table = (outcome, (call.recordCacheHit table).2)) ∨
      (∃ error, call.runFetch cache table = (.raised error, (call.reserve table).2)) ∨
      ∃ payload after, call.reserve table = (.ok (), after) ∧
        call.runFetch cache table =
          (.served payload, cache.put call.env after (call.env.upper call.argument) payload) := by
  unfold runFetch
  dsimp only
  cases call.env.client with
  | error error => exact .inl ⟨_, rfl⟩
  | ok ready =>
      cases cache.get call.env table (call.env.upper call.argument) with
      | error error => exact .inl ⟨_, rfl⟩
      | ok found =>
          cases found with
          | some payload =>
              refine .inr (.inl ?_)
              obtain ⟨error | ⟨⟩, after⟩ := call.recordCacheHit table
              · exact ⟨_, rfl, rfl⟩
              · exact ⟨_, rfl, rfl⟩
          | none =>
              refine .inr (.inr ?_)
              obtain ⟨error | ⟨⟩, after⟩ := call.reserve table
              · exact .inl ⟨_, rfl⟩
              · cases call.env.answer with
                | error error => exact .inl ⟨_, rfl⟩
                | ok payload => exact .inr ⟨payload, after, rfl, rfl⟩

/-- What a call for filings can do. -/
theorem runFilings_cases (call : ToolCall) (table : Table) :
    (∃ error, call.runFilings table = (.raised error, table)) ∨
      (∃ error, call.runFilings table = (.raised error, (call.recordCacheHit table).2)) ∨
      ∃ payload after, call.rateLimit table = .ok () ∧
        call.recordCacheHit table = (.ok (), after) ∧
          call.runFilings table = (.served payload, after) := by
  unfold runFilings
  cases call.rateLimit table with
  | error error => exact .inl ⟨_, rfl⟩
  | ok allowed =>
      obtain ⟨error | ⟨⟩, after⟩ := call.recordCacheHit table
      · exact .inr (.inl ⟨_, rfl⟩)
      · cases call.env.answer with
        | error error => exact .inr (.inl ⟨_, rfl⟩)
        | ok payload => exact .inr (.inr ⟨payload, after, rfl, rfl, rfl⟩)

end ToolCall

/-- A cache keeps its rows apart from the counters. -/
structure ToolCache.Apart (cache : ToolCache) : Prop where
  free : FreeOf '#' cache.family
  other : cache.family.toList ≠ "TOOL_QUOTA".toList

theorem ToolCache.apart_news : ToolCache.news.Apart := ⟨by decide, by decide⟩

theorem ToolCache.apart_social : ToolCache.social.Apart := ⟨by decide, by decide⟩

namespace ToolCall

open ToolQuotaStore (counter)

variable {call : ToolCall} {cache : ToolCache} {table : Table} {key attr : String}

/-- A row of a cache is no counter. -/
theorem counter_put (apart : cache.Apart) (env : ToolCallEnv) (table : Table)
    (symbol payload : String) (family : familyOf '#' key = "TOOL_QUOTA".toList) (attr : String) :
    counter (cache.put env table symbol payload) key attr = counter table key attr := by
  have ofCache : familyOf '#' (cache.pk env symbol) = cache.family.toList :=
    familyOf_append (by decide) apart.free
  have families : familyOf '#' key ≠ familyOf '#' (cache.pk env symbol) := by
    rw [family, ofCache]
    exact apart.other.symm
  exact ToolQuotaStore.counter_putItem_of_ne table (ne_of_family families) attr _

theorem counter_le_runFetch (apart : cache.Apart)
    (family : familyOf '#' key = "TOOL_QUOTA".toList) (noTtl : attr ≠ "ttl") :
    counter table key attr ≤ counter (call.runFetch cache table).2 key attr := by
  rcases runFetch_cases call cache table with
    ⟨_, ran⟩ | ⟨_, -, ran⟩ | ⟨_, ran⟩ | ⟨payload, after, granted, ran⟩
  · rw [ran]
  · rw [ran]
    exact ToolQuotaStore.counter_le_recordCacheHit key noTtl
  · rw [ran]
    exact ToolQuotaStore.counter_le_reserve key noTtl
  · rw [ran]
    show counter table key attr ≤ counter (cache.put _ after _ payload) key attr
    have same : (call.reserve table).2 = after := congrArg Prod.snd granted
    rw [counter_put apart _ _ _ _ family, ← same]
    exact ToolQuotaStore.counter_le_reserve key noTtl

theorem counter_le_runFilings (noTtl : attr ≠ "ttl") :
    counter table key attr ≤ counter (call.runFilings table).2 key attr := by
  rcases runFilings_cases call table with ⟨_, ran⟩ | ⟨_, ran⟩ | ⟨payload, after, -, recorded, ran⟩
  · rw [ran]
  · rw [ran]
    exact ToolQuotaStore.counter_le_recordCacheHit key noTtl
  · rw [ran]
    show counter table key attr ≤ counter after key attr
    have same : (call.recordCacheHit table).2 = after := congrArg Prod.snd recorded
    rw [← same]
    exact ToolQuotaStore.counter_le_recordCacheHit key noTtl

/-- No call lowers a counter. -/
theorem counter_le_step (call : ToolCall) (table : Table)
    (family : familyOf '#' key = "TOOL_QUOTA".toList) (noTtl : attr ≠ "ttl") :
    counter table key attr ≤ counter (step table call) key attr := by
  unfold step run
  cases call.tool.function with
  | fetchNews => exact counter_le_runFetch ToolCache.apart_news family noTtl
  | listRecentFilings => exact counter_le_runFilings noTtl
  | readFiling => exact counter_le_runFilings noTtl
  | fetchSocial => exact counter_le_runFetch ToolCache.apart_social family noTtl

/-- A counter went up by one and is within the limit. -/
def Spent (limit : Int) (key attr : String) (table after : Table) : Prop :=
  counter after key attr = counter table key attr + 1 ∧ counter after key attr ≤ limit

/-- The row of the counters that a call is held against. -/
def quotaPk (call : ToolCall) : String :=
  ToolQuotaStore.pk call.tool.context.strategyId (ToolQuotaStore.todayUtc call.env.seconds)

theorem spent_runFetch (apart : cache.Apart)
    (served : (call.runFetch cache table).1.isServed = true) :
    Spent call.tool.dailyQuota call.quotaPk (ToolQuotaStore.consumedAttr call.tool.function.toolName)
      table (call.runFetch cache table).2 := by
  rcases runFetch_cases call cache table with
    ⟨_, ran⟩ | ⟨_, free, ran⟩ | ⟨_, ran⟩ | ⟨payload, after, granted, ran⟩
  · rw [ran] at served
    cases served
  · rw [ran, free] at served
    cases served
  · rw [ran] at served
    cases served
  · rw [ran]
    unfold Spent quotaPk
    dsimp only
    rw [counter_put apart _ _ _ _ (ToolQuotaStore.familyOf_pk _ _)]
    exact ToolQuotaStore.reserve_ok granted

theorem spent_runFilings (served : (call.runFilings table).1.isServed = true) :
    Spent call.tool.dailyQuota call.quotaPk (ToolQuotaStore.hitsAttr call.tool.function.toolName)
      table (call.runFilings table).2 := by
  rcases runFilings_cases call table with
    ⟨_, ran⟩ | ⟨_, ran⟩ | ⟨payload, after, allowed, recorded, ran⟩
  · rw [ran] at served
    cases served
  · rw [ran] at served
    cases served
  · rw [ran]
    have raised := ToolQuotaStore.recordCacheHit_ok recorded
    unfold rateLimit at allowed
    dsimp only at allowed
    split at allowed
    · cases allowed
    · refine ⟨raised, ?_⟩
      show ToolQuotaStore.cacheHitsToday after _ _ _ ≤ _
      omega

/-- A served call spends a unit of its tool's quota. -/
theorem spent_of_served (served : (call.run table).1.isServed = true) :
    Spent call.tool.dailyQuota call.quotaPk (quotaAttr call.tool.function.toolName) table
      (step table call) := by
  obtain ⟨⟨function, context, dailyQuota⟩, env, argument⟩ := call
  cases function with
  | fetchNews => exact spent_runFetch ToolCache.apart_news served
  | listRecentFilings => exact spent_runFilings served
  | readFiling => exact spent_runFilings served
  | fetchSocial => exact spent_runFetch ToolCache.apart_social served

end ToolCall

end TradingStrands
