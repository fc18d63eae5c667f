import TradingStrands.MemoryCompactor.Appends
import TradingStrands.StrategiesStore.Store

/-!
Owns the nightly fan-out: a function is invoked once for each active strategy, and an
invocation that raises leaves the others. The compactor's invocations reach its handler
in any order, once, more often or never. Of the memory nothing but the compressed files
of these bots can change, and each of these is the last that a delivery for the bot
itself has made of the bot's own raw file.

A delivery is one step. The raw files are those of days that are over.
-/

namespace TradingStrands

open TradingStrands.Foundation

/-- The texts of a JSON object. -/
abbrev Payload : Type := Dict String String

namespace BotProvisioner

/-- One invocation outcome; the error is the exception whose text it is. -/
structure InvocationResult where
  orgId : OrgId
  botId : BotId
  ok : Bool
  error : Option PyError := none
deriving DecidableEq, Repr

/-- The organisation and bot of every active strategy. -/
def enumerateActiveBots (strategies : List Strategy) : List (OrgId × BotId) :=
  (strategies.filter fun strategy => strategy.status = .active).map fun strategy =>
    (strategy.orgId, "strategy-" ++ strategy.strategyId)

/-- Invoke a function once per bot. `invoke` is what becomes of an invocation: one that
raises may have been accepted all the same. -/
def fanOut (payloadOf : OrgId × BotId → Payload) (invoke : Payload → PutFate)
    (bots : List (OrgId × BotId)) : List InvocationResult :=
  bots.map fun bot =>
    match (invoke (payloadOf bot)).error? with
    | some error => { orgId := bot.1, botId := bot.2, ok := false, error := some error }
    | none => { orgId := bot.1, botId := bot.2, ok := true }

def critiquePayload (bot : OrgId × BotId) : Payload :=
  (Dict.empty.set "org_id" bot.1).set "bot_id" bot.2

def fanOutSelfCritique : (Payload → PutFate) → List (OrgId × BotId) → List InvocationResult :=
  fanOut critiquePayload

def compactorPayload (bot : OrgId × BotId) : Payload :=
  ((Dict.empty.set "org_id" bot.1).set "agent_type" "strategy").set "agent_id" bot.2

def fanOutMemoryCompactor : (Payload → PutFate) → List (OrgId × BotId) → List InvocationResult :=
  fanOut compactorPayload

structure Summary where
  ok : Bool
  target : String
  total : Nat
  succeeded : Nat
  failed : Nat
  errors : List (BotId × Option PyError)
deriving DecidableEq, Repr

def summarize (target : String) (results : List InvocationResult) : Summary :=
  let failed := results.countP fun result => ¬ result.ok
  { ok := failed = 0, target, total := results.length, succeeded := results.countP (·.ok), failed
    errors := (results.filter fun result => ¬ result.ok).map fun result =>
      (result.botId, result.error) }

/-- `_run`, on what `list_all` answers. -/
def run (listed : Except PyError (List Strategy)) (invoke : Payload → PutFate)
    (target : String) : Except PyError Summary :=
  listed.map fun strategies =>
    let bots := enumerateActiveBots strategies
    summarize target (if target = "memory_compactor" then fanOutMemoryCompactor invoke bots
      else fanOutSelfCritique invoke bots)

/-- The payloads that the invocations of the compactor get through. -/
def sentPayloads (invoke : Payload → PutFate) (strategies : List Strategy) : List Payload :=
  ((enumerateActiveBots strategies).map compactorPayload).filter fun payload =>
    (invoke payload).keeps

end BotProvisioner

namespace MemoryCompactor

open AgentMemoryStore

/-! ### The handler -/

/-- An invocation of the compactor, and what becomes of its calls. -/
structure Delivery where
  payload : Payload
  now : Int
  llmInvoker : String → String → Except PyError (String × Int × Int)
  faults : ReadFaults
  fate : PutFate

def yesterdayUtc (now : Int) : String := isoDate (now - 86400)

def handler (delivery : Delivery) (bucket : Bucket) : Except PyError CompactReport × Bucket :=
  match delivery.payload.get? "org_id" with
  | none => (.error (.keyError "org_id"), bucket)
  | some orgId =>
      let agentType := (delivery.payload.get? "agent_type").getD "strategy"
      match delivery.payload.get? "agent_id" with
      | none => (.error (.keyError "agent_id"), bucket)
      | some agentId =>
          let given := (delivery.payload.get? "date").getD ""
          let date := if given ≠ "" then given else yesterdayUtc delivery.now
          let compacted := runCompactDay
            { memoryStore := { orgId, agentType, agentId }, date, orgId, agentType, agentId
              llmInvoker := delivery.llmInvoker, faults := delivery.faults
              fate := delivery.fate } bucket
          (.ok compacted.1, compacted.2)

def deliver (bucket : Bucket) (delivery : Delivery) : Bucket := (handler delivery bucket).2

/-- The memory of the bot that an invocation is for. -/
def storeOf (bot : OrgId × BotId) : AgentMemoryStore :=
  { orgId := bot.1, agentType := "strategy", agentId := bot.2 }

/-- The compaction that a delivery for a bot comes to. -/
def Delivery.compactCall (delivery : Delivery) (bot : OrgId × BotId) : CompactCall where
  memoryStore := storeOf bot
  date := yesterdayUtc delivery.now
  orgId := bot.1
  agentType := "strategy"
  agentId := bot.2
  llmInvoker := delivery.llmInvoker
  faults := delivery.faults
  fate := delivery.fate

theorem deliver_compactorPayload (bucket : Bucket) {delivery : Delivery} {bot : OrgId × BotId}
    (names : delivery.payload = BotProvisioner.compactorPayload bot) :
    deliver bucket delivery = (runCompactDay (delivery.compactCall bot) bucket).2 := by
  have orgId : delivery.payload.get? "org_id" = some bot.1 := by
    rw [names]
    rfl
  have agentType : delivery.payload.get? "agent_type" = some "strategy" := by
    rw [names]
    rfl
  have agentId : delivery.payload.get? "agent_id" = some bot.2 := by
    rw [names]
    rfl
  have date : delivery.payload.get? "date" = none := by
    rw [names]
    rfl
  unfold deliver handler
  rw [orgId, agentType, agentId, date]
  rfl

/-! ### What a delivery leaves -/

/-- What a compaction keeps as the compressed file of a raw text. -/
def CompactCall.written? (call : CompactCall) (raw : String) : Option String :=
  if call.faults call.rawKey = none ∧ isBlank raw = false ∧ call.fate.keeps = true then
    (call.llmInvoker compactorSystemPrompt (call.userPrompt raw)).toOption.map fun answer =>
      AuditorAgent.strip answer.1 ++ "\n"
  else none

theorem snd_runCompactDay (call : CompactCall) (bucket : Bucket) :
    (runCompactDay call bucket).2 =
      (call.written? (call.raw bucket)).elim bucket fun content =>
        bucket.set call.compressedKey content := by
  unfold CompactCall.written?
  rcases bucket_of_runCompactDay call bucket with ⟨same, silent⟩ | ⟨text, writes, set⟩
  · rw [same]
    split
    next quiet =>
      cases answered : call.llmInvoker compactorSystemPrompt
          (call.userPrompt (call.raw bucket)) with
      | error error => rfl
      | ok answer =>
          exact absurd ⟨quiet.1, quiet.2.1, ⟨answer.2, answered⟩, quiet.2.2⟩ (silent answer.1)
    next => rfl
  · obtain ⟨tokens, answered⟩ := writes.answered
    rw [set, if_pos ⟨writes.read, writes.notBlank, writes.kept⟩, answered]
    rfl

theorem get?_deliver_of_ne (bucket : Bucket) {delivery : Delivery} {bot : OrgId × BotId}
    (names : delivery.payload = BotProvisioner.compactorPayload bot) {key : String}
    (different : key ≠ (delivery.compactCall bot).compressedKey) :
    (deliver bucket delivery).get? key = bucket.get? key := by
  rw [deliver_compactorPayload bucket names, snd_runCompactDay]
  cases (delivery.compactCall bot).written? ((delivery.compactCall bot).raw bucket) with
  | none => rfl
  | some content => exact Dict.get?_set_of_ne _ _ different

/-! ### A night -/

section Night

variable {strategies : List Strategy} {invoke : Payload → PutFate} {deliveries : List Delivery}

/-- What a delivery makes of the raw file of a bot's day. -/
def Delivery.file? (bot : OrgId × BotId) (date : String) (bucket : Bucket)
    (delivery : Delivery) : Option String :=
  if delivery.payload = BotProvisioner.compactorPayload bot ∧ yesterdayUtc delivery.now = date then
    (delivery.compactCall bot).written? ((delivery.compactCall bot).raw bucket)
  else none

theorem storeOf_plain {bot : OrgId × BotId} (free : FreeOf '/' bot.2) : (storeOf bot).Plain :=
  ⟨(by decide : FreeOf '/' "strategy"), free⟩

/-- The compressed files of different bots or days are different files. -/
theorem compressedKey_inj {bot other : OrgId × BotId} (free : FreeOf '/' bot.2)
    (otherFree : FreeOf '/' other.2) {day otherDay : Int}
    (same : (storeOf bot).dailyKey (isoDate day) .compressed =
      (storeOf other).dailyKey (isoDate otherDay) .compressed) :
    bot = other ∧ isoDate day = isoDate otherDay := by
  have named : ∀ seconds, FreeOf '/' (isoDate seconds ++ ".compressed.md") := by
    intro seconds
    have date : FreeOf '/' (isoDate seconds) := isoDate_freeOf (by decide) (by decide) seconds
    unfold FreeOf at *
    rw [String.toList_append, List.mem_append]
    rintro (inDate | inSuffix)
    · exact date inDate
    · exact absurd inSuffix (by decide)
  have shape : ∀ (bot : OrgId × BotId) (seconds : Int),
      (storeOf bot).dailyKey (isoDate seconds) .compressed =
        (storeOf bot).lead ++ "/" ++ (isoDate seconds ++ ".compressed.md") :=
    fun _ _ => String.append_assoc ..
  rw [shape, shape] at same
  obtain ⟨stores, names⟩ :=
    ((storeOf_plain free).key_eq_iff (storeOf_plain otherFree) (named day) (named otherDay)).mp same
  exact ⟨Prod.ext (congrArg AgentMemoryStore.orgId stores) (congrArg AgentMemoryStore.agentId stores),
    (String.append_left_inj _).mp names⟩

theorem mem_sentPayloads {payload : Payload} :
    payload ∈ BotProvisioner.sentPayloads invoke strategies ↔
      ∃ bot ∈ BotProvisioner.enumerateActiveBots strategies,
        BotProvisioner.compactorPayload bot = payload ∧ (invoke payload).keeps = true := by
  unfold BotProvisioner.sentPayloads
  rw [List.mem_filter, List.mem_map]
  constructor
  · rintro ⟨⟨bot, active, same⟩, kept⟩
    exact ⟨bot, active, same, kept⟩
  · rintro ⟨bot, active, same, kept⟩
    exact ⟨⟨bot, active, same⟩, kept⟩

/-- A file that is no compressed file of a bot that is compacted stays as it is. -/
theorem get?_night_of_ne
    (sent : ∀ delivery ∈ deliveries, delivery.payload ∈
      BotProvisioner.sentPayloads invoke strategies) (start : Bucket) {key : String}
    (apart : ∀ bot ∈ BotProvisioner.enumerateActiveBots strategies,
      (invoke (BotProvisioner.compactorPayload bot)).keeps = true →
        ∀ now, key ≠ (storeOf bot).dailyKey (isoDate now) .compressed) :
    (Foundation.run deliver start deliveries).get? key = start.get? key := by
  induction deliveries generalizing start with
  | nil => rfl
  | cons delivery rest inductionHypothesis =>
      obtain ⟨bot, active, names, kept⟩ := mem_sentPayloads.mp (sent delivery List.mem_cons_self)
      rw [Foundation.run_cons,
        inductionHypothesis (fun later member => sent later (List.mem_cons_of_mem _ member))]
      rw [← names] at kept
      exact get?_deliver_of_ne start names.symm (apart bot active kept _)

/-- What a delivery does to the compressed file of a bot's day. -/
theorem get?_deliver_compressed {bot other : OrgId × BotId} (free : FreeOf '/' bot.2)
    (otherFree : FreeOf '/' other.2) (bucket : Bucket) {delivery : Delivery}
    (names : delivery.payload = BotProvisioner.compactorPayload other) (day : Int) :
    (deliver bucket delivery).get? ((storeOf bot).dailyKey (isoDate day) .compressed) =
      (delivery.file? bot (isoDate day) bucket).or
        (bucket.get? ((storeOf bot).dailyKey (isoDate day) .compressed)) := by
  unfold Delivery.file?
  by_cases own : delivery.payload = BotProvisioner.compactorPayload bot ∧
      yesterdayUtc delivery.now = isoDate day
  · rw [if_pos own, deliver_compactorPayload bucket own.1, snd_runCompactDay]
    have key : (delivery.compactCall bot).compressedKey =
        (storeOf bot).dailyKey (isoDate day) .compressed :=
      congrArg (fun date => (storeOf bot).dailyKey date .compressed) own.2
    cases (delivery.compactCall bot).written? ((delivery.compactCall bot).raw bucket) with
    | none => rfl
    | some content =>
        rw [Option.elim_some, key, Dict.get?_set_self]
        rfl
  · rw [if_neg own, Option.none_or]
    refine get?_deliver_of_ne bucket names fun same => own ?_
    obtain ⟨rfl, dates⟩ := compressedKey_inj free otherFree same
    exact ⟨names, dates.symm⟩

/-- The compressed file of a bot's day is the last that its deliveries make of the raw
file as it was at first. -/
theorem compressed_night
    (plain : ∀ bot ∈ BotProvisioner.enumerateActiveBots strategies, FreeOf '/' bot.2)
    (sent : ∀ delivery ∈ deliveries, delivery.payload ∈
      BotProvisioner.sentPayloads invoke strategies) (start : Bucket) {bot : OrgId × BotId}
    (free : FreeOf '/' bot.2) (day : Int) :
    (Foundation.run deliver start deliveries).get?
        ((storeOf bot).dailyKey (isoDate day) .compressed) =
      (deliveries.filterMap (Delivery.file? bot (isoDate day) start)).getLast?.or
        (start.get? ((storeOf bot).dailyKey (isoDate day) .compressed)) := by
  induction deliveries using List.reverseRecOn with
  | nil => rfl
  | append_singleton earlier delivery inductionHypothesis =>
      have sentEarlier := fun before member => sent before (List.mem_append_left [delivery] member)
      obtain ⟨other, active, names, -⟩ := mem_sentPayloads.mp
        (sent delivery (List.mem_append_right _ (List.mem_singleton_self delivery)))
      -- the raw file is still the one the night began with
      have raw : (Foundation.run deliver start earlier).get?
          ((storeOf bot).dailyKey (isoDate day) .raw) =
            start.get? ((storeOf bot).dailyKey (isoDate day) .raw) :=
        get?_night_of_ne sentEarlier start fun _ _ _ _ same =>
          not_isCompressedKey_day day (same ▸ isCompressedKey_dailyKey)
      have made : delivery.file? bot (isoDate day) (Foundation.run deliver start earlier) =
          delivery.file? bot (isoDate day) start := by
        unfold Delivery.file?
        by_cases own : delivery.payload = BotProvisioner.compactorPayload bot ∧
            yesterdayUtc delivery.now = isoDate day
        · rw [if_pos own, if_pos own]
          have key : (delivery.compactCall bot).rawKey =
              (storeOf bot).dailyKey (isoDate day) .raw :=
            congrArg (fun date => (storeOf bot).dailyKey date .raw) own.2
          unfold CompactCall.raw
          rw [key, raw]
        · rw [if_neg own, if_neg own]
      rw [Foundation.run_concat, get?_deliver_compressed free (plain other active) _ names.symm day,
        made, inductionHypothesis sentEarlier, List.filterMap_append, List.getLast?_append]
      cases file : delivery.file? bot (isoDate day) start with
      | none => simp [file]
      | some content => simp [file]

theorem keeps_of_error?_eq_none {fate : PutFate} (answered : fate.error? = none) :
    fate.keeps = true := by
  cases fate with
  | stored => rfl
  | raises error kept => cases answered

/-- A run that reports no failure has got every invocation through. -/
theorem run_memoryCompactor (strategies : List Strategy) (invoke : Payload → PutFate) :
    ∃ summary, BotProvisioner.run (.ok strategies) invoke "memory_compactor" = .ok summary ∧
      summary.total = (BotProvisioner.enumerateActiveBots strategies).length ∧
      summary.succeeded + summary.failed = summary.total ∧
      (summary.ok = true → ∀ bot ∈ BotProvisioner.enumerateActiveBots strategies,
        BotProvisioner.compactorPayload bot ∈ BotProvisioner.sentPayloads invoke strategies) := by
  let results := BotProvisioner.fanOutMemoryCompactor invoke
    (BotProvisioner.enumerateActiveBots strategies)
  refine ⟨BotProvisioner.summarize "memory_compactor" results, rfl, List.length_map _, ?_, ?_⟩
  · exact (List.length_eq_countP_add_countP BotProvisioner.InvocationResult.ok).symm
  · intro reportsOk bot active
    have none : ∀ result ∈ results, ¬ decide (¬ result.ok = true) = true :=
      List.countP_eq_zero.mp (of_decide_eq_true reportsOk)
    refine mem_sentPayloads.mpr ⟨bot, active, rfl, keeps_of_error?_eq_none ?_⟩
    have answered := none _ (List.mem_map_of_mem active)
    cases raised : (invoke (BotProvisioner.compactorPayload bot)).error? with
    | none => rfl
    | some error => simp [raised] at answered

/-- After the deliveries of a night, in whatever order and however often they come: the
compressed file of an active bot's day is the last that a delivery for the bot itself
has made of the raw file as it was at first; every other file is as it was, so are the
raw ones and those of the bots whose invocation did not get through; and the
invocations for all bots have got through if the run says so. -/
theorem night_run (plain : ∀ strategy ∈ strategies, FreeOf '/' strategy.strategyId)
    (sent : ∀ delivery ∈ deliveries, delivery.payload ∈
      BotProvisioner.sentPayloads invoke strategies) (start : Bucket) :
    let bots := BotProvisioner.enumerateActiveBots strategies
    let bucket := Foundation.run deliver start deliveries
    (∀ bot ∈ bots, ∀ day : Int,
        bucket.get? ((storeOf bot).dailyKey (isoDate day) .compressed) =
          (deliveries.filterMap (Delivery.file? bot (isoDate day) start)).getLast?.or
            (start.get? ((storeOf bot).dailyKey (isoDate day) .compressed))) ∧
      (∀ key, (∀ bot ∈ bots, (invoke (BotProvisioner.compactorPayload bot)).keeps = true →
          ∀ now, key ≠ (storeOf bot).dailyKey (isoDate now) .compressed) →
        bucket.get? key = start.get? key) ∧
      ∃ summary, BotProvisioner.run (.ok strategies) invoke "memory_compactor" = .ok summary ∧
        summary.total = bots.length ∧ summary.succeeded + summary.failed = summary.total ∧
          (summary.ok = true → ∀ bot ∈ bots, BotProvisioner.compactorPayload bot ∈
            BotProvisioner.sentPayloads invoke strategies) := by
  intro bots bucket
  have free : ∀ bot ∈ bots, FreeOf '/' bot.2 := by
    intro bot active
    obtain ⟨strategy, member, rfl⟩ := List.mem_map.mp active
    have id := plain strategy (List.mem_of_mem_filter member)
    unfold FreeOf at *
    rw [String.toList_append, List.mem_append]
    rintro (inPrefix | inId)
    · exact absurd inPrefix (by decide)
    · exact id inId
  exact ⟨fun bot active day => compressed_night free sent start (free bot active) day,
    fun key apart => get?_night_of_ne sent start apart, run_memoryCompactor strategies invoke⟩

/-- Two strategies that trade and one that is paused. -/
def threeStrategies : List Strategy :=
  let strategy (strategyId : String) (status : StrategyStatus) : Strategy :=
    { strategyId, orgId := "acme", authorUserId := "ada", name := strategyId, markdown := ""
      status, createdAt := 0, updatedAt := 0 }
  [strategy "momentum" .active, strategy "value" .active, strategy "idle" .paused]

/-- The invocation for one of them is lost. -/
def losing (payload : Payload) : PutFate :=
  if payload.get? "agent_id" = some "strategy-value" then .raises (.external "timeout") false
  else .stored

/-- The invocation for the other is delivered twice. -/
def delivered (text : String) : Delivery where
  payload := BotProvisioner.compactorPayload ("acme", "strategy-momentum")
  now := 1777213997 + 86400
  llmInvoker _ _ := .ok (text, 900, 0)
  faults _ := none
  fate := .stored

theorem night_run_threeStrategies :
    let start : Bucket := Dict.empty.set "acme/strategy/strategy-momentum/2026-04-26.md"
      "- 14:33 BUY SPY x10\n"
    let bucket := Foundation.run deliver start [delivered "# 2026-04-26", delivered " BUY SPY x10"]
    bucket.get? ((storeOf ("acme", "strategy-momentum")).dailyKey (isoDate 1777213997) .compressed) =
        some "BUY SPY x10\n" ∧
      bucket.get? "acme/strategy/strategy-momentum/2026-04-26.md" = some "- 14:33 BUY SPY x10\n" := by
  intro start bucket
  have plain : ∀ strategy ∈ threeStrategies, FreeOf '/' strategy.strategyId := by
    intro strategy member
    simp only [threeStrategies, List.mem_cons, List.not_mem_nil, or_false] at member
    rcases member with rfl | rfl | rfl
    · exact (by decide : FreeOf '/' "momentum")
    · exact (by decide : FreeOf '/' "value")
    · exact (by decide : FreeOf '/' "idle")
  have sent : ∀ delivery ∈ [delivered "# 2026-04-26", delivered " BUY SPY x10"],
      delivery.payload ∈ BotProvisioner.sentPayloads losing threeStrategies := by
    intro delivery member
    simp only [List.mem_cons, List.not_mem_nil, or_false] at member
    rcases member with rfl | rfl <;> decide +kernel
  obtain ⟨files, others, -⟩ := night_run plain sent start
  refine ⟨(files _ (by decide +kernel) 1777213997).trans (by decide +kernel), ?_⟩
  refine (others _ fun bot _ _ now same => ?_).trans (by decide +kernel)
  have raw : "acme/strategy/strategy-momentum/2026-04-26.md" =
      (storeOf ("acme", "strategy-momentum")).dailyKey (isoDate 1777213997) .raw := by
    decide +kernel
  exact not_isCompressedKey_day 1777213997 (raw ▸ same ▸ isCompressedKey_dailyKey)

end Night

end MemoryCompactor

end TradingStrands
