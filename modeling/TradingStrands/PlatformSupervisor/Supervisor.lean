import Mathlib.Data.Prod.Lex
import Mathlib.Data.String.Basic
import TradingStrands.Foundation.Decimal
import TradingStrands.Foundation.Newest
import TradingStrands.Heartbeat.Store

/-!
Owns the platform supervisor: every heartbeat is classified by its age, unless its
agent beats too seldom for that, and the report counts them in a fixed order.

It proves that the report alarms exactly for the agents of the fast kinds whose last
beat is too old. An agent is in the report as long as its last beat is not over a
week old, and no agent is in it that never beat. The clock is read once.
-/

namespace TradingStrands.PlatformSupervisor

open TradingStrands.Foundation HeartbeatStore

inductive AgentHealthStatus
  | healthy
  | stale
  | missing
  | untracked
deriving DecidableEq, Repr

def fastCadenceAgentTypes : List String := ["strategy", "subscriber"]

structure AgentHealth where
  agentType : String
  agentId : String
  lastBeatTs : Int
  status : AgentHealthStatus
  reportedStatus : String := "healthy"
  currentActivity : String := ""
  lastDecisionAt : Int := 0
  memoryFileCursor : Int := 0
  queueDepth : Int := 0
  errorsLastHour : Int := 0
deriving DecidableEq, Repr

structure HealthReport where
  total : Nat
  healthy : Nat
  stale : Nat
  missing : Nat
  agents : List AgentHealth

def HealthReport.ok (report : HealthReport) : Bool := report.stale = 0 ∧ report.missing = 0

section Checking

variable (now staleAfter missingAfter : ℚ)

def classifyBeat (lastBeatTs : Int) : AgentHealthStatus :=
  if lastBeatTs ≤ 0 then .missing
  else
    let age := now - lastBeatTs
    if missingAfter ≤ age then .missing
    else if staleAfter ≤ age then .stale
    else .healthy

def agentHealth (beat : Heartbeat) : AgentHealth :=
  { agentType := beat.agentType
    agentId := beat.agentId
    lastBeatTs := beat.lastBeatTs
    status := if beat.agentType ∈ fastCadenceAgentTypes then
        classifyBeat now staleAfter missingAfter beat.lastBeatTs
      else .untracked
    reportedStatus := beat.status
    currentActivity := beat.currentActivity
    lastDecisionAt := beat.lastDecisionAt
    memoryFileCursor := beat.memoryFileCursor
    queueDepth := beat.queueDepth
    errorsLastHour := beat.errorsLastHour }

def count (agents : List AgentHealth) (status : AgentHealthStatus) : Nat :=
  agents.countP fun agent => agent.status = status

/-- The type and the id, as they are ordered. -/
def AgentHealth.sortKey (agent : AgentHealth) : String ×ₗ String :=
  toLex (agent.agentType, agent.agentId)

def checkHealth (beats : List Heartbeat) : HealthReport :=
  let agents := oldestFirst AgentHealth.sortKey
    (beats.map (agentHealth now staleAfter missingAfter))
  { total := agents.length
    healthy := count agents .healthy
    stale := count agents .stale
    missing := count agents .missing
    agents }

/-! ### What the report says of the beats -/

/-- A beat that is no reason for an alarm. -/
def Fresh (lastBeatTs : Int) : Prop :=
  0 < lastBeatTs ∧ now - lastBeatTs < missingAfter ∧ now - lastBeatTs < staleAfter

theorem classifyBeat_eq_healthy_iff {lastBeatTs : Int} :
    classifyBeat now staleAfter missingAfter lastBeatTs = .healthy ↔
      Fresh now staleAfter missingAfter lastBeatTs := by
  unfold classifyBeat Fresh
  dsimp only
  split_ifs with unset missing stale
  · exact iff_of_false (by decide) fun fresh => by omega
  · exact iff_of_false (by decide) fun fresh => absurd missing (not_le.mpr fresh.2.1)
  · exact iff_of_false (by decide) fun fresh => absurd stale (not_le.mpr fresh.2.2)
  · exact iff_of_true rfl ⟨by omega, not_le.mp missing, not_le.mp stale⟩

theorem ok_checkHealth_iff (beats : List Heartbeat) :
    (checkHealth now staleAfter missingAfter beats).ok = true ↔
      ∀ beat ∈ beats, beat.agentType ∈ fastCadenceAgentTypes →
        Fresh now staleAfter missingAfter beat.lastBeatTs := by
  have zero : ∀ status, count (checkHealth now staleAfter missingAfter beats).agents status = 0 ↔
      ∀ beat ∈ beats, (agentHealth now staleAfter missingAfter beat).status ≠ status := by
    intro status
    unfold count checkHealth
    dsimp only
    rw [List.countP_eq_zero]
    constructor
    · intro none beat member
      have here := none _ ((perm_oldestFirst _ _).mem_iff.mpr (List.mem_map_of_mem member))
      simpa using here
    · intro none agent member
      obtain ⟨beat, inBeats, rfl⟩ := List.mem_map.mp ((perm_oldestFirst _ _).mem_iff.mp member)
      simpa using none beat inBeats
  have tracked : ∀ beat : Heartbeat, ((agentHealth now staleAfter missingAfter beat).status ≠ .stale ∧
      (agentHealth now staleAfter missingAfter beat).status ≠ .missing) ↔
        (beat.agentType ∈ fastCadenceAgentTypes →
          Fresh now staleAfter missingAfter beat.lastBeatTs) := by
    intro beat
    unfold agentHealth
    dsimp only
    by_cases fast : beat.agentType ∈ fastCadenceAgentTypes
    · rw [if_pos fast, ← classifyBeat_eq_healthy_iff]
      have never : classifyBeat now staleAfter missingAfter beat.lastBeatTs ≠ .untracked := by
        unfold classifyBeat
        dsimp only
        split_ifs <;> decide
      cases status : classifyBeat now staleAfter missingAfter beat.lastBeatTs <;> simp_all
    · simp [fast]
  unfold HealthReport.ok
  rw [decide_eq_true_eq]
  show count (checkHealth now staleAfter missingAfter beats).agents .stale = 0 ∧
    count (checkHealth now staleAfter missingAfter beats).agents .missing = 0 ↔ _
  rw [zero, zero]
  simp only [← tracked]
  exact ⟨fun both beat member => ⟨both.1 beat member, both.2 beat member⟩,
    fun all => ⟨fun beat member => (all beat member).1, fun beat member => (all beat member).2⟩⟩

theorem agents_checkHealth_perm (beats : List Heartbeat) :
    (checkHealth now staleAfter missingAfter beats).agents.Perm
      (beats.map (agentHealth now staleAfter missingAfter)) :=
  perm_oldestFirst _ _

end Checking

/-! ### What the report says of the agents -/

/-- No two heartbeats in the table are of one agent. -/
theorem pairwise_listAll (events : List Event) :
    (listAll (tableAfter events)).Pairwise fun left right =>
      ¬ (left.agentType = right.agentType ∧ left.agentId = right.agentId) := by
  unfold listAll Dict.values
  rw [List.map_map, List.pairwise_map]
  refine (List.pairwise_map.mp (tableAfter events).nodup).imp_of_mem
    fun {left right} inLeft inRight different same => different ?_
  obtain ⟨agent, leftKey, leftLast⟩ := lastBeat?_of_get? (Dict.get?_of_mem_entries inLeft)
  obtain ⟨other, rightKey, rightLast⟩ := lastBeat?_of_get? (Dict.get?_of_mem_entries inRight)
  obtain ⟨leftType, leftId⟩ := lastBeat?_fields leftLast
  obtain ⟨rightType, rightId⟩ := lastBeat?_fields rightLast
  have types : agent.agentType = other.agentType :=
    PlainId.eq_of_text (leftType.symm.trans (same.1.trans rightType))
  have ids : agent.agentId = other.agentId := leftId.symm.trans (same.2.trans rightId)
  rw [leftKey, rightKey]
  unfold heartbeatPk
  rw [types, ids]

/-- After any beats and removals, and in whichever order the rows are scanned: each
agent is in the report at most once, with its last beat that was kept, in the order
of types and ids; one whose last beat is not over a week old is there; a report
without alarm means that no agent of the fast kinds is silent, unless for over a
week, and there is no alarm if none is. -/
theorem checkHealth_exact (events : List Event) (now staleAfter missingAfter : ℚ)
    (past : ∀ event ∈ events, event.time ≤ now) (beats : List Heartbeat)
    (scanned : beats.Perm (listAll (tableAfter events))) :
    let report := checkHealth now staleAfter missingAfter beats
    (report.agents.Pairwise fun left right => left.sortKey < right.sortKey) ∧
      (∀ health ∈ report.agents, ∃ agent row, lastBeat? agent events = some row ∧
        health = agentHealth now staleAfter missingAfter row) ∧
      (∀ agent row, lastBeat? agent events = some row →
        now ≤ row.lastBeatTs + beatTtlSeconds →
          agentHealth now staleAfter missingAfter row ∈ report.agents) ∧
      (report.ok = true → ∀ agent row, lastBeat? agent events = some row →
        agent.agentType.text ∈ fastCadenceAgentTypes →
          Fresh now staleAfter missingAfter row.lastBeatTs ∨
            row.lastBeatTs + beatTtlSeconds < now) ∧
      ((∀ agent row, lastBeat? agent events = some row →
        agent.agentType.text ∈ fastCadenceAgentTypes →
          Fresh now staleAfter missingAfter row.lastBeatTs) → report.ok = true) := by
  intro report
  have inTable : ∀ beat ∈ beats, ∃ agent, lastBeat? agent events = some beat := by
    intro beat member
    obtain ⟨lease, inValues, rfl⟩ := List.mem_map.mp (scanned.mem_iff.mp member)
    obtain ⟨pk, found⟩ := Dict.mem_values_iff.mp inValues
    obtain ⟨agent, -, last⟩ := lastBeat?_of_get? found
    exact ⟨agent, last⟩
  have live : ∀ agent row, lastBeat? agent events = some row →
      now ≤ row.lastBeatTs + beatTtlSeconds → row ∈ beats := by
    intro agent row last lives
    have floor : ∀ event ∈ events, event.time ≤ ⌊now⌋ := fun event member =>
      Int.le_floor.mpr (past event member)
    have notOver : ⌊now⌋ ≤ row.lastBeatTs + beatTtlSeconds := by
      have below : (⌊now⌋ : ℚ) ≤ ((row.lastBeatTs + beatTtlSeconds : Int) : ℚ) := by
        push_cast
        exact (Int.floor_le now).trans lives
      exact Int.cast_le.mp below
    have found := get?_of_lastBeat? floor last notOver
    exact scanned.mem_iff.mpr (List.mem_map_of_mem (Dict.mem_values_iff.mpr ⟨_, found⟩))
  refine ⟨?_, fun health member => ?_, fun agent row last lives => ?_, fun ok agent row last fast => ?_,
    fun all => ?_⟩
  · have apart : (beats.map (agentHealth now staleAfter missingAfter)).Pairwise
        fun left right => left.sortKey ≠ right.sortKey := by
      rw [List.pairwise_map]
      refine ((scanned.pairwise_iff ?_).mpr (pairwise_listAll events)).imp fun different same => ?_
      · exact fun different same => different ⟨same.1.symm, same.2.symm⟩
      · exact different (Prod.mk.inj (toLex_inj.mp same))
    have distinct : report.agents.Pairwise fun left right => left.sortKey ≠ right.sortKey :=
      ((agents_checkHealth_perm now staleAfter missingAfter beats).pairwise_iff
        fun different => different.symm).mpr apart
    exact ((pairwise_oldestFirst AgentHealth.sortKey _).and distinct).imp fun order =>
      lt_of_le_of_ne order.1 order.2
  · obtain ⟨beat, inBeats, rfl⟩ := List.mem_map.mp
      ((agents_checkHealth_perm now staleAfter missingAfter beats).mem_iff.mp member)
    obtain ⟨agent, last⟩ := inTable beat inBeats
    exact ⟨agent, beat, last, rfl⟩
  · exact (agents_checkHealth_perm now staleAfter missingAfter beats).mem_iff.mpr
      (List.mem_map_of_mem (live agent row last lives))
  · by_cases lives : now ≤ row.lastBeatTs + beatTtlSeconds
    · left
      rw [← (lastBeat?_fields last).1] at fast
      exact (ok_checkHealth_iff now staleAfter missingAfter beats).mp ok row
        (live agent row last lives) fast
    · right
      exact not_le.mp lives
  · refine (ok_checkHealth_iff now staleAfter missingAfter beats).mpr fun beat member fast => ?_
    obtain ⟨agent, last⟩ := inTable beat member
    rw [(lastBeat?_fields last).1] at fast
    exact all agent beat last fast

/-- Two agents; the one that fell silent two minutes ago makes the report alarm. -/
theorem checkHealth_exact_silent :
    let bot : AgentName := ⟨⟨"strategy", by decide⟩, "s1"⟩
    let auditor : AgentName := ⟨⟨"auditor", by decide⟩, "org1"⟩
    let events : List Event := [.beat { agent := bot } 1777213985 .stored,
      .beat { agent := auditor } 1777213000 .stored,
      .beat { agent := bot } 1777214000 (.raises (.external "throttled") false)]
    (checkHealth 1777214105 60 300 (listAll (tableAfter events))).ok ≠ true := by
  intro bot auditor events ok
  have silent := (checkHealth_exact events 1777214105 60 300 (by decide +kernel) _
    (List.Perm.refl _)).2.2.2.1 ok bot
      { agentType := "strategy", agentId := "s1", lastBeatTs := 1777213985 } (by decide +kernel)
      (by decide)
  revert silent
  unfold Fresh
  decide +kernel

end TradingStrands.PlatformSupervisor
