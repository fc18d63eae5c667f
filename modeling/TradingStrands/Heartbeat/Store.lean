import TradingStrands.Foundation.DelimitedKey
import TradingStrands.Foundation.Expiry
import TradingStrands.Foundation.PutFate

/-!
Owns heartbeats: one row for each agent, written over with every beat, which the
table may drop a week after the last one. A status that is not known is written as
healthy.

The types of agents are free of the key's delimiter; their ids may hold it. A row
holds the values its attributes encode.
-/

namespace TradingStrands

open TradingStrands.Foundation

structure Heartbeat where
  agentType : String
  agentId : String
  lastBeatTs : Int
  status : String := "healthy"
  currentActivity : String := ""
  lastDecisionAt : Int := 0
  memoryFileCursor : Int := 0
  queueDepth : Int := 0
  errorsLastHour : Int := 0
deriving DecidableEq, Repr

/-- The type and the id of an agent. -/
structure AgentName where
  agentType : PlainId '#'
  agentId : String
deriving DecidableEq

namespace HeartbeatStore

def validStatuses : List String := ["healthy", "degraded", "error"]

def beatTtlSeconds : Int := 7 * 24 * 3600

def heartbeatPk (agent : AgentName) : String :=
  "HEARTBEAT" ++ "#" ++ agent.agentType.text ++ "#" ++ agent.agentId

/-- The arguments of a beat. -/
structure Beat where
  agent : AgentName
  status : String := "healthy"
  currentActivity : String := ""
  lastDecisionAt : Option Int := none
  memoryFileCursor : Int := 0
  queueDepth : Int := 0
  errorsLastHour : Int := 0

/-- The row that a beat writes. -/
def Beat.row (beat : Beat) (now : Int) : Heartbeat :=
  { agentType := beat.agent.agentType.text
    agentId := beat.agent.agentId
    lastBeatTs := now
    status := if beat.status ∈ validStatuses then beat.status else "healthy"
    currentActivity := beat.currentActivity
    lastDecisionAt := beat.lastDecisionAt.getD 0
    memoryFileCursor := beat.memoryFileCursor
    queueDepth := beat.queueDepth
    errorsLastHour := beat.errorsLastHour }

abbrev HeartbeatTable : Type := Dict String (Lease Heartbeat)

def writeBeat (call : Beat) (now : Int) (table : HeartbeatTable) : HeartbeatTable :=
  table.set (heartbeatPk call.agent) ⟨call.row now, now + beatTtlSeconds⟩

/-- A beat, whose write may raise. -/
def beat (table : HeartbeatTable) (call : Beat) (now : Int) (fate : PutFate) :
    Except PyError Unit × HeartbeatTable :=
  fate.put (writeBeat call now) table

def listAll (table : HeartbeatTable) : List Heartbeat := table.values.map (·.value)

/-- A beat of an agent, or the removal of a row that has expired. -/
inductive Event
  | beat (call : Beat) (now : Int) (fate : PutFate)
  | reclaim (pk : String) (now : Int)

def Event.time : Event → Int
  | .beat _ now _ => now
  | .reclaim _ now => now

def step (table : HeartbeatTable) : Event → HeartbeatTable
  | .beat call now fate => (beat table call now fate).2
  | .reclaim pk now => Expiry.step beatTtlSeconds table (.reclaim pk now)

def tableAfter (events : List Event) : HeartbeatTable := run step Dict.empty events

/-! ### Beats as writes of rows that expire -/

def Event.expiry : Event → ExpiryEvent String Heartbeat
  | .beat call now fate => .write (heartbeatPk call.agent) (call.row now) now fate.keeps
  | .reclaim pk now => .reclaim pk now

theorem tableAfter_eq (events : List Event) :
    tableAfter events = run (Expiry.step beatTtlSeconds) Dict.empty (events.map (·.expiry)) := by
  have same : ∀ table event, step table event =
      Expiry.step beatTtlSeconds table event.expiry := by
    intro table event
    cases event with
    | beat call now fate =>
        show (fate.put (writeBeat call now) table).2 = _
        rw [PutFate.snd_put]
        rfl
    | reclaim pk now => rfl
  unfold tableAfter run
  rw [List.foldl_map]
  congr 1
  funext table event
  exact same table event

/-- A key names one agent. -/
theorem heartbeatPk_inj {left right : AgentName} (same : heartbeatPk left = heartbeatPk right) :
    left = right := by
  have isMark : "#".toList = ['#'] := rfl
  have tails : left.agentType.text ++ "#" ++ left.agentId =
      right.agentType.text ++ "#" ++ right.agentId := by
    have chars := congrArg String.toList same
    simp only [heartbeatPk, String.toList_append, List.append_assoc,
      List.append_cancel_left_eq] at chars
    rw [← String.toList_inj]
    simpa only [String.toList_append, List.append_assoc] using chars
  have types := congrArg (familyOf '#') tails
  rw [familyOf_append isMark left.agentType.free, familyOf_append isMark right.agentType.free,
    String.toList_inj] at types
  have ids := congrArg String.toList tails
  simp only [String.toList_append, types, List.append_cancel_left_eq] at ids
  cases left
  cases right
  exact (AgentName.mk.injEq ..).mpr ⟨PlainId.eq_of_text types, String.toList_inj.mp ids⟩

/-- The last beat of an agent that was kept. -/
def lastBeat? (agent : AgentName) (events : List Event) : Option Heartbeat :=
  (events.filterMap fun
    | .beat call now fate =>
        if call.agent = agent ∧ fate.keeps = true then some (call.row now) else none
    | .reclaim _ _ => none).getLast?

theorem lastWrite?_expiry (agent : AgentName) (events : List Event) :
    Expiry.lastWrite? (heartbeatPk agent) (events.map (·.expiry)) =
      (lastBeat? agent events).map fun row => (row, row.lastBeatTs) := by
  unfold Expiry.lastWrite? lastBeat?
  rw [List.filterMap_map, ← List.getLast?_map, List.map_filterMap]
  congr 1
  refine List.filterMap_congr fun event _ => ?_
  cases event with
  | reclaim pk now => rfl
  | beat call now fate =>
      have key : heartbeatPk call.agent = heartbeatPk agent ↔ call.agent = agent :=
        ⟨heartbeatPk_inj, congrArg heartbeatPk⟩
      show (if heartbeatPk call.agent = heartbeatPk agent ∧ fate.keeps = true then
          some (call.row now, now) else none) =
        (if call.agent = agent ∧ fate.keeps = true then some (call.row now) else none).map _
      simp only [key]
      split <;> rfl

theorem lastBeat?_fields {agent : AgentName} {events : List Event} {row : Heartbeat}
    (last : lastBeat? agent events = some row) :
    row.agentType = agent.agentType.text ∧ row.agentId = agent.agentId := by
  obtain ⟨event, -, isRow⟩ := List.mem_filterMap.mp (List.mem_of_getLast? last)
  cases event with
  | reclaim pk now => cases isRow
  | beat call now fate =>
      dsimp only at isRow
      split at isRow
      next own =>
        obtain rfl := Option.some.inj isRow
        rw [← own.1]
        exact ⟨rfl, rfl⟩
      next => cases isRow

/-- A row is under the key of an agent, and it is the agent's last beat. -/
theorem lastBeat?_of_get? {events : List Event} {pk : String} {lease : Lease Heartbeat}
    (found : (tableAfter events).get? pk = some lease) :
    ∃ agent, pk = heartbeatPk agent ∧ lastBeat? agent events = some lease.value := by
  rw [tableAfter_eq] at found
  have last := Expiry.lastWrite?_of_get? beatTtlSeconds found
  obtain ⟨expiry, member, write⟩ := List.mem_filterMap.mp (List.mem_of_getLast? last)
  obtain ⟨event, -, rfl⟩ := List.mem_map.mp member
  cases event with
  | reclaim other now => cases write
  | beat call now fate =>
      have own : heartbeatPk call.agent = pk := by
        by_contra different
        have none : Expiry.keptWrite? pk (Event.beat call now fate).expiry = none :=
          if_neg fun both => different both.1
        rw [none] at write
        cases write
      refine ⟨call.agent, own.symm, ?_⟩
      rw [← own, lastWrite?_expiry] at last
      obtain ⟨row, isLast, same⟩ := Option.map_eq_some_iff.mp last
      rw [isLast, (Prod.mk.inj same).1]

/-- An agent whose last beat is not over a week old has it in the table. -/
theorem get?_of_lastBeat? {events : List Event} {agent : AgentName} {row : Heartbeat} {now : Int}
    (past : ∀ event ∈ events, event.time ≤ now) (last : lastBeat? agent events = some row)
    (lives : now ≤ row.lastBeatTs + beatTtlSeconds) :
    (tableAfter events).get? (heartbeatPk agent) =
      some ⟨row, row.lastBeatTs + beatTtlSeconds⟩ := by
  rw [tableAfter_eq]
  refine Expiry.get?_of_lastWrite? beatTtlSeconds ?_ ?_ lives
  · intro expiry member
    obtain ⟨event, inEvents, rfl⟩ := List.mem_map.mp member
    have earlier := past event inEvents
    cases event <;> exact earlier
  · rw [lastWrite?_expiry, last]
    rfl

end HeartbeatStore

end TradingStrands
