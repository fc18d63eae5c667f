import TradingStrands.Authz.Model
import TradingStrands.Foundation.Interleaving
import TradingStrands.Foundation.IsoDate
import TradingStrands.Foundation.Tally

/-!
Owns the record of token usage. A usage is written three times: it is added to the
row of its organisation and day, then to the row of its agent and day, and last it
is put as a row of its own. The keys of the two kinds of aggregates begin alike and
are told apart by their number of parts.

Does not own: how the cost of an invocation is estimated.
-/

namespace TradingStrands

open TradingStrands.Foundation

structure TokenUsage where
  orgId : OrgId
  agentId : String
  agentType : String
  model : String
  inputTokens : Int
  outputTokens : Int
  costUsdEst : Decimal
  timestamp : Int
deriving DecidableEq, Repr

/-- The amounts that are added up. -/
inductive TokenAmount
  | inputTokens
  | outputTokens
  | costUsdEst
  | invocations
deriving DecidableEq, Repr

def TokenAmount.attr : TokenAmount → String
  | .inputTokens => "input_tokens"
  | .outputTokens => "output_tokens"
  | .costUsdEst => "cost_usd_est"
  | .invocations => "invocations"

def TokenUsage.amount (usage : TokenUsage) : TokenAmount → Decimal
  | .inputTokens => usage.inputTokens
  | .outputTokens => usage.outputTokens
  | .costUsdEst => usage.costUsdEst
  | .invocations => 1

namespace TokenUsageStore

def dateKey (ts : Int) : String := isoDate ts

def orgPk (orgId : OrgId) (date : String) : String := "TOKEN#" ++ orgId ++ "#" ++ date

def agentPk (orgId : OrgId) (agentId date : String) : String :=
  "TOKEN#" ++ orgId ++ "#" ++ agentId ++ "#" ++ date

def eventPk (orgId : OrgId) (eventId : String) : String :=
  "TOKENEVENT#" ++ orgId ++ "#" ++ eventId

def adds (usage : TokenUsage) : List (String × Decimal) :=
  [("input_tokens", usage.inputTokens), ("output_tokens", usage.outputTokens),
    ("cost_usd_est", usage.costUsdEst), ("invocations", 1)]

def eventRow (usage : TokenUsage) : TallyRow where
  numbers := Dict.empty.setAll
    [("input_tokens", usage.inputTokens), ("output_tokens", usage.outputTokens),
      ("cost_usd_est", usage.costUsdEst), ("timestamp", usage.timestamp),
      ("ttl", usage.timestamp + 86400)]
  texts := Dict.empty.setAll
    [("org_id", usage.orgId), ("agent_id", usage.agentId), ("agent_type", usage.agentType),
      ("model", usage.model)]

/-- The operations of `record`; `random` are the digits drawn for the event. -/
def record (usage : TokenUsage) (random : String) : List TallyOp :=
  let date := dateKey usage.timestamp
  [.update (orgPk usage.orgId date) (adds usage) [("org_id", usage.orgId), ("date", date)],
    .update (agentPk usage.orgId usage.agentId date) (adds usage)
      [("org_id", usage.orgId), ("agent_id", usage.agentId), ("agent_type", usage.agentType),
        ("date", date)],
    .put (eventPk usage.orgId (toString usage.timestamp ++ "-" ++ random)) (eventRow usage)]

/-- The row of an organisation and date, empty if there is none. -/
def dailyOrgTotal (table : TallyTable) (orgId : OrgId) (date : String) : TallyRow :=
  (table.get? (orgPk orgId date)).getD {}

/-- The row of an agent and date, empty if there is none. -/
def dailyAgentTotal (table : TallyTable) (orgId : OrgId) (agentId date : String) : TallyRow :=
  (table.get? (agentPk orgId agentId date)).getD {}

@[simp] theorem amount_adds (usage : TokenUsage) (field : TokenAmount) :
    TallyRow.amount (adds usage) field.attr = usage.amount field := by
  cases field <;> simp [TallyRow.amount, adds, TokenAmount.attr, TokenUsage.amount]

/-! ### Keys -/

theorem dateKey_freeOf (ts : Int) : FreeOf '#' (dateKey ts) :=
  isoDate_freeOf (by decide) (by decide) ts

section Keys

variable {orgId other : OrgId} {agentId otherAgent : String} {ts now : Int}

private theorem lead_inj {left right : String} (same : "TOKEN#" ++ left = "TOKEN#" ++ right) :
    left = right :=
  String.append_right_inj _ |>.mp same

theorem orgPk_eq_iff :
    orgPk orgId (dateKey ts) = orgPk other (dateKey now) ↔
      orgId = other ∧ utcDay ts = utcDay now := by
  constructor
  · intro same
    obtain ⟨orgs, dates⟩ := joined_inj (by decide) (dateKey_freeOf ts) (dateKey_freeOf now) same
    exact ⟨lead_inj orgs, isoDate_eq_iff.mp dates⟩
  · rintro ⟨rfl, sameDay⟩
    exact congrArg (orgPk orgId) (isoDate_eq_iff.mpr sameDay)

theorem agentPk_eq_iff (free : FreeOf '#' agentId) (otherFree : FreeOf '#' otherAgent) :
    agentPk orgId agentId (dateKey ts) = agentPk other otherAgent (dateKey now) ↔
      orgId = other ∧ agentId = otherAgent ∧ utcDay ts = utcDay now := by
  constructor
  · intro same
    obtain ⟨ids, dates⟩ := joined_inj (by decide) (dateKey_freeOf ts) (dateKey_freeOf now) same
    obtain ⟨orgs, agents⟩ := joined_inj (by decide) free otherFree ids
    exact ⟨lead_inj orgs, agents, isoDate_eq_iff.mp dates⟩
  · rintro ⟨rfl, rfl, sameDay⟩
    exact congrArg (agentPk orgId agentId) (isoDate_eq_iff.mpr sameDay)

/-- An aggregate of an agent is none of an organisation. -/
theorem agentPk_ne_orgPk (otherFree : FreeOf '#' other) :
    agentPk orgId agentId (dateKey ts) ≠ orgPk other (dateKey now) := by
  intro same
  obtain ⟨ids, -⟩ := joined_inj (by decide) (dateKey_freeOf ts) (dateKey_freeOf now) same
  rw [String.append_assoc, String.append_assoc] at ids
  have named : orgId ++ ("#" ++ agentId) = other := lead_inj ids
  refine otherFree ?_
  rw [← named, String.toList_append, String.toList_append]
  exact List.mem_append_right _ (List.mem_append_left _ (by decide))

theorem beginsWith_orgPk (free : FreeOf '#' orgId) (otherFree : FreeOf '#' other) (date : String) :
    beginsWith (orgPk orgId date) ("TOKEN#" ++ other ++ "#") = true ↔ other = orgId :=
  beginsWith_delimited (by decide) otherFree free

theorem beginsWith_agentPk (free : FreeOf '#' orgId) (otherFree : FreeOf '#' other)
    (agentId date : String) :
    beginsWith (agentPk orgId agentId date) ("TOKEN#" ++ other ++ "#") = true ↔ other = orgId := by
  unfold agentPk
  rw [String.append_assoc, String.append_assoc]
  exact beginsWith_delimited (by decide) otherFree free

private theorem eventPk_get (orgId : OrgId) (eventId : String) :
    (eventPk orgId eventId).toList[5]? = some 'E' := by
  simp [eventPk, String.toList_append]

theorem not_beginsWith_eventPk (orgId other : OrgId) (eventId : String) :
    beginsWith (eventPk orgId eventId) ("TOKEN#" ++ other ++ "#") = false := by
  have leadAt : ("TOKEN#" ++ other ++ "#").toList[5]? = some '#' := by
    simp [String.toList_append]
  exact not_beginsWith_of_get leadAt (eventPk_get orgId eventId) (by decide)

theorem eventPk_ne_orgPk (orgId other : OrgId) (eventId date : String) :
    eventPk orgId eventId ≠ orgPk other date := by
  have rightAt : (orgPk other date).toList[5]? = some '#' := by
    simp [orgPk, String.toList_append]
  exact ne_of_get 5 (eventPk_get orgId eventId) rightAt (by decide)

theorem eventPk_ne_agentPk (orgId other : OrgId) (eventId agentId date : String) :
    eventPk orgId eventId ≠ agentPk other agentId date := by
  have rightAt : (agentPk other agentId date).toList[5]? = some '#' := by
    simp [agentPk, String.toList_append]
  exact ne_of_get 5 (eventPk_get orgId eventId) rightAt (by decide)

end Keys

/-! ### What a record writes -/

section Record

variable {usage : TokenUsage} {random : String} {orgId : OrgId} {agentId : String} {now : Int}

/-- The amounts that a record adds to an organisation's row are its own or nothing. -/
theorem addsTo_org (free : FreeOf '#' orgId) (field : TokenAmount) :
    ((record usage random).map
        (TallyOp.addsTo (orgPk orgId (dateKey now)) field.attr)).sum =
      if usage.orgId = orgId ∧ utcDay usage.timestamp = utcDay now then usage.amount field
      else 0 := by
  have agent : agentPk usage.orgId usage.agentId (dateKey usage.timestamp) ≠
      orgPk orgId (dateKey now) := agentPk_ne_orgPk free
  simp only [record, List.map_cons, List.map_nil, List.sum_cons, List.sum_nil, TallyOp.addsTo,
    amount_adds, if_neg agent, orgPk_eq_iff, add_zero]

/-- The amounts that a record adds to an agent's row are its own or nothing. -/
theorem addsTo_agent (plain : FreeOf '#' usage.orgId) (agentPlain : FreeOf '#' usage.agentId)
    (free : FreeOf '#' agentId) (field : TokenAmount) :
    ((record usage random).map
        (TallyOp.addsTo (agentPk orgId agentId (dateKey now)) field.attr)).sum =
      if usage.orgId = orgId ∧ usage.agentId = agentId ∧ utcDay usage.timestamp = utcDay now then
        usage.amount field
      else 0 := by
  have org : orgPk usage.orgId (dateKey usage.timestamp) ≠ agentPk orgId agentId (dateKey now) :=
    (agentPk_ne_orgPk plain).symm
  simp only [record, List.map_cons, List.map_nil, List.sum_cons, List.sum_nil, TallyOp.addsTo,
    amount_adds, if_neg org, agentPk_eq_iff agentPlain free, add_zero, zero_add]

/-- What a record writes under an organisation's key is the organisation's update. -/
theorem record_org {op : TallyOp} (member : op ∈ record usage random) (free : FreeOf '#' orgId)
    (named : op.key = orgPk orgId (dateKey now)) :
    op.isUpdate = true ∧ op.default? "agent_id" = none := by
  simp only [record, List.mem_cons, List.not_mem_nil, or_false] at member
  obtain rfl | rfl | rfl := member
  · exact ⟨rfl, by simp [TallyOp.default?, TallyRow.default?]⟩
  · exact absurd named (agentPk_ne_orgPk free)
  · exact absurd named (eventPk_ne_orgPk _ _ _ _)

/-- What a record writes under an agent's key is the agent's update. -/
theorem record_agent {op : TallyOp} (member : op ∈ record usage random)
    (plain : FreeOf '#' usage.orgId) (agentPlain : FreeOf '#' usage.agentId)
    (free : FreeOf '#' agentId) (named : op.key = agentPk orgId agentId (dateKey now)) :
    op.isUpdate = true ∧ op.default? "agent_id" = some agentId ∧
      op.default? "date" = some (dateKey now) := by
  simp only [record, List.mem_cons, List.not_mem_nil, or_false] at member
  obtain rfl | rfl | rfl := member
  · exact absurd named.symm (agentPk_ne_orgPk plain)
  · obtain ⟨-, rfl, sameDay⟩ := (agentPk_eq_iff agentPlain free).mp named
    have date : dateKey usage.timestamp = dateKey now := isoDate_eq_iff.mpr sameDay
    exact ⟨rfl, by simp [TallyOp.default?, TallyRow.default?],
      by simp [TallyOp.default?, TallyRow.default?, date]⟩
  · exact absurd named (eventPk_ne_agentPk _ _ _ _ _)

end Record

end TokenUsageStore

end TradingStrands
