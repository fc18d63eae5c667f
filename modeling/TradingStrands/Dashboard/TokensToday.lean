import TradingStrands.TokenTelemetry.Store

/-!
Owns the token totals that the dashboard shows for a day, and that they agree with
what was recorded, however concurrent records were interleaved: the organisation's
row, the rows of its agents and the events have the same sums.

Does not own: which organisation a request is for. How a cost is read to sort by it
is a parameter.
-/

namespace TradingStrands

open TradingStrands.Foundation TokenUsageStore

structure TokenLine where
  agentId : String
  agentType : String
  totals : TokenAmount → Decimal

/-- The answer of the token endpoint. -/
structure TokensToday where
  orgId : OrgId
  date : String
  total : TokenAmount → Decimal
  perAgent : List TokenLine

namespace Dashboard

/-- `int(value)`. -/
def truncate (value : Decimal) : Int := if 0 ≤ value then value.floor else value.ceil

/-- An amount of a row as it is shown; costs keep their fractions. -/
def shown (row : TallyRow) (field : TokenAmount) : Decimal :=
  match field with
  | .costUsdEst => row.number field.attr
  | _ => truncate (row.number field.attr)

/-- The line of a row, nothing if the row is no agent's. -/
def agentLine (row : TallyRow) : Option TokenLine :=
  match row.text? "agent_id" with
  | none => none
  | some agentId =>
      if agentId = "" then none
      else some { agentId, agentType := (row.text? "agent_type").getD "unknown",
                  totals := shown row }

theorem agentLine_of_text {row : TallyRow} {agentId : String}
    (names : row.text? "agent_id" = some agentId) (named : agentId ≠ "") :
    agentLine row = some ⟨agentId, (row.text? "agent_type").getD "unknown", shown row⟩ := by
  unfold agentLine
  rw [names]
  exact if_neg named

/-- The rows of a day under the prefix of an organisation. -/
def tokenRows (table : TallyTable) (orgId : OrgId) (date : String) : List (String × TallyRow) :=
  table.entries.filter fun row =>
    beginsWith row.1 ("TOKEN#" ++ orgId ++ "#") = true ∧ row.2.text? "date" = some date

def tokenLines (table : TallyTable) (orgId : OrgId) (date : String) : List TokenLine :=
  (tokenRows table orgId date).filterMap fun row => agentLine row.2

/-- `GET /api/tokens/today`, for the organisation of the request. -/
def tokensToday (rank : Decimal → Decimal) (table : TallyTable) (orgId : OrgId) (now : Int) :
    TokensToday :=
  let date := dateKey now
  { orgId, date
    total := shown (dailyOrgTotal table orgId date)
    perAgent := (tokenLines table orgId date).mergeSort fun left right =>
      rank (right.totals .costUsdEst) ≤ rank (left.totals .costUsdEst) }

/-- A call of `record`, with the digits it draws. -/
structure RecordCall where
  usage : TokenUsage
  random : String

namespace RecordCall

def ops (call : RecordCall) : List TallyOp := record call.usage call.random

/-- Ids without the separator of the keys, and an agent that has one. -/
structure Plain (call : RecordCall) : Prop where
  named : call.usage.agentId ≠ ""
  org : FreeOf '#' call.usage.orgId
  agent : FreeOf '#' call.usage.agentId

end RecordCall

/-- What was recorded for an organisation on the day of a moment. -/
def usagesOn (calls : List RecordCall) (orgId : OrgId) (now : Int) : List TokenUsage :=
  (calls.map RecordCall.usage).filter fun usage =>
    usage.orgId = orgId ∧ utcDay usage.timestamp = utcDay now

def sumOf (usages : List TokenUsage) (field : TokenAmount) : Decimal :=
  (usages.map fun usage => usage.amount field).sum

/-- A report and its rows agree with what was recorded. -/
structure Agrees (usages : List TokenUsage) (table : TallyTable) (report : TokensToday) :
    Prop where
  /-- The row of the organisation is the sum of the events. -/
  orgRow : ∀ field, (dailyOrgTotal table report.orgId report.date).number field.attr =
    sumOf usages field
  total : ∀ field, report.total field = sumOf usages field
  /-- It is the sum of the lines of its agents as well. -/
  lines : ∀ field, (report.perAgent.map fun line => line.totals field).sum = sumOf usages field
  once : (report.perAgent.map TokenLine.agentId).Nodup
  /-- The lines are those of the agents of the events. -/
  agents : ∀ agentId, agentId ∈ report.perAgent.map TokenLine.agentId ↔
    ∃ usage ∈ usages, usage.agentId = agentId
  /-- A line shows the row of its agent, which is the sum of the agent's events. -/
  own : ∀ line ∈ report.perAgent, ∀ field,
    line.totals field =
        (dailyAgentTotal table report.orgId line.agentId report.date).number field.attr ∧
      line.totals field =
        sumOf (usages.filter fun usage => usage.agentId = line.agentId) field

section Recorded

variable {calls : List RecordCall} {order : List TallyOp} {orgId : OrgId} {agentId : String}
  {now : Int}

def recorded (order : List TallyOp) : TallyTable := run TallyOp.apply Dict.empty order

theorem notMem_keys_empty {key : String} : key ∉ (Dict.empty : TallyTable).keys :=
  List.not_mem_nil

theorem mem_order (interleaved : Interleaves (calls.map RecordCall.ops) order) {op : TallyOp} :
    op ∈ order ↔ ∃ call ∈ calls, op ∈ record call.usage call.random := by
  rw [interleaved.perm.mem_iff, List.mem_flatten]
  simp only [List.mem_map, exists_exists_and_eq_and]
  exact Iff.rfl

theorem usage_mem_usagesOn {usage : TokenUsage} :
    usage ∈ usagesOn calls orgId now ↔ (∃ call ∈ calls, call.usage = usage) ∧
      usage.orgId = orgId ∧ utcDay usage.timestamp = utcDay now := by
  unfold usagesOn
  rw [List.mem_filter, List.mem_map, decide_eq_true_eq]

/-- A number that records only add to is the sum of what they add. -/
theorem numberAt_recorded (interleaved : Interleaves (calls.map RecordCall.ops) order)
    {key name : String} (counts : ∀ op ∈ order, op.key = key → op.isUpdate = true)
    (share : TokenUsage → Decimal)
    (adds : ∀ call ∈ calls,
      ((record call.usage call.random).map (TallyOp.addsTo key name)).sum = share call.usage) :
    TallyTable.numberAt (recorded order) key name =
      ((calls.map RecordCall.usage).map share).sum := by
  unfold recorded
  rw [TallyTable.numberAt_run Dict.empty counts, interleaved.sum_map, List.map_map, List.map_map]
  have empty : TallyTable.numberAt Dict.empty key name = 0 := rfl
  rw [empty, zero_add]
  exact congrArg List.sum (List.map_congr_left adds)

/-- The row of an organisation adds up its events. -/
theorem number_org (interleaved : Interleaves (calls.map RecordCall.ops) order)
    (free : FreeOf '#' orgId) (field : TokenAmount) :
    (dailyOrgTotal (recorded order) orgId (dateKey now)).number field.attr =
      sumOf (usagesOn calls orgId now) field := by
  have counts : ∀ op ∈ order, op.key = orgPk orgId (dateKey now) → op.isUpdate = true := by
    intro op member named
    obtain ⟨call, -, inside⟩ := (mem_order interleaved).mp member
    exact (record_org inside free named).1
  have added := numberAt_recorded interleaved counts
    (fun usage => if usage.orgId = orgId ∧ utcDay usage.timestamp = utcDay now then
      usage.amount field else 0)
    fun call _ => addsTo_org free field
  unfold sumOf usagesOn
  rw [sum_map_filter]
  simp only [decide_eq_true_eq]
  exact added

variable (plain : ∀ call ∈ calls, call.Plain)
include plain

/-- The row of an agent adds up the agent's events. -/
theorem number_agent (interleaved : Interleaves (calls.map RecordCall.ops) order)
    (free : FreeOf '#' agentId) (field : TokenAmount) :
    (dailyAgentTotal (recorded order) orgId agentId (dateKey now)).number field.attr =
      sumOf ((usagesOn calls orgId now).filter fun usage => usage.agentId = agentId) field := by
  have counts : ∀ op ∈ order, op.key = agentPk orgId agentId (dateKey now) →
      op.isUpdate = true := by
    intro op member named
    obtain ⟨call, called, inside⟩ := (mem_order interleaved).mp member
    exact (record_agent inside (plain call called).org (plain call called).agent free named).1
  have added := numberAt_recorded interleaved counts
    (fun usage => if usage.orgId = orgId ∧ usage.agentId = agentId ∧
        utcDay usage.timestamp = utcDay now then usage.amount field else 0)
    fun call called => addsTo_agent (plain call called).org (plain call called).agent free field
  unfold sumOf usagesOn
  rw [List.filter_filter, sum_map_filter]
  refine Eq.trans added (congrArg List.sum (List.map_congr_left fun usage _ => ?_))
  refine if_congr ?_ rfl rfl
  simp only [Bool.and_eq_true, decide_eq_true_eq]
  tauto

/-- A row under an organisation's prefix is one of its own or of its agents. -/
theorem key_of_tokenRows (interleaved : Interleaves (calls.map RecordCall.ops) order)
    (free : FreeOf '#' orgId) {row : String × TallyRow}
    (listed : row ∈ tokenRows (recorded order) orgId (dateKey now)) :
    ∃ call ∈ calls, call.usage.orgId = orgId ∧
      (row.1 = orgPk orgId (dateKey call.usage.timestamp) ∨
        row.1 = agentPk orgId call.usage.agentId (dateKey call.usage.timestamp)) := by
  obtain ⟨member, begins⟩ := List.mem_filter.mp listed
  obtain ⟨begins, -⟩ := of_decide_eq_true begins
  have present : row.1 ∈ (recorded order).keys := List.mem_map_of_mem member
  rcases TallyTable.mem_keys_run.mp present with empty | ⟨op, performed, named⟩
  · cases empty
  obtain ⟨call, called, inside⟩ := (mem_order interleaved).mp performed
  refine ⟨call, called, ?_⟩
  rw [← named] at begins
  simp only [record, List.mem_cons, List.not_mem_nil, or_false] at inside
  obtain rfl | rfl | rfl := inside
  · have same := (beginsWith_orgPk (plain call called).org free _).mp begins
    exact ⟨same.symm, .inl (by rw [← named, same]; rfl)⟩
  · have same := (beginsWith_agentPk (plain call called).org free _ _).mp begins
    exact ⟨same.symm, .inr (by rw [← named, same]; rfl)⟩
  · have outside := not_beginsWith_eventPk call.usage.orgId orgId
      (toString call.usage.timestamp ++ "-" ++ call.random)
    cases outside.symm.trans begins

omit plain in
/-- No text of an organisation's row names an agent. -/
theorem agentLine_org (interleaved : Interleaves (calls.map RecordCall.ops) order)
    (free : FreeOf '#' orgId) {row : TallyRow}
    (stored : (recorded order).get? (orgPk orgId (dateKey now)) = some row) :
    agentLine row = none := by
  have agree : ∀ op ∈ order, op.key = orgPk orgId (dateKey now) →
      op.default? "agent_id" = none := by
    intro op member named
    obtain ⟨call, -, inside⟩ := (mem_order interleaved).mp member
    exact (record_org inside free named).2
  have unnamed := TallyTable.textAt_run agree (fun early => absurd early notMem_keys_empty)
    (Dict.mem_keys_iff.mpr ⟨row, stored⟩)
  have text : row.text? "agent_id" = none := by
    unfold recorded at stored
    unfold TallyTable.textAt at unnamed
    rwa [stored] at unnamed
  unfold agentLine
  rw [text]

/-- The row of an agent names it, and its day. -/
theorem texts_agent (interleaved : Interleaves (calls.map RecordCall.ops) order)
    (free : FreeOf '#' agentId) {row : TallyRow}
    (stored : (recorded order).get? (agentPk orgId agentId (dateKey now)) = some row) :
    row.text? "agent_id" = some agentId ∧ row.text? "date" = some (dateKey now) := by
  have facts : ∀ op ∈ order, op.key = agentPk orgId agentId (dateKey now) →
      op.default? "agent_id" = some agentId ∧ op.default? "date" = some (dateKey now) := by
    intro op member named
    obtain ⟨call, called, inside⟩ := (mem_order interleaved).mp member
    exact (record_agent inside (plain call called).org (plain call called).agent free named).2
  have present := Dict.mem_keys_iff.mpr ⟨row, stored⟩
  have id := TallyTable.textAt_run (fun op member named => (facts op member named).1)
    (fun early => absurd early notMem_keys_empty) present
  have date := TallyTable.textAt_run (fun op member named => (facts op member named).2)
    (fun early => absurd early notMem_keys_empty) present
  unfold recorded at stored
  unfold TallyTable.textAt at id date
  rw [stored] at id date
  exact ⟨id, date⟩

/-- A line comes from the row of an agent that was recorded on the day. -/
theorem usage_of_agentLine (interleaved : Interleaves (calls.map RecordCall.ops) order)
    (free : FreeOf '#' orgId) {row : String × TallyRow}
    (listed : row ∈ tokenRows (recorded order) orgId (dateKey now)) {line : TokenLine}
    (shows : agentLine row.2 = some line) :
    ∃ usage ∈ usagesOn calls orgId now, line.agentId = usage.agentId ∧
      row.1 = agentPk orgId usage.agentId (dateKey now) ∧ line.totals = shown row.2 := by
  have stored : (recorded order).get? row.1 = some row.2 :=
    Dict.get?_of_mem_entries (List.mem_filter.mp listed).1
  obtain ⟨call, called, owner, org | agent⟩ := key_of_tokenRows plain interleaved free listed
  · rw [org] at stored
    cases (agentLine_org interleaved free stored).symm.trans shows
  · have own := plain call called
    have keyed := stored
    rw [agent] at keyed
    obtain ⟨id, date⟩ := texts_agent plain interleaved own.agent keyed
    obtain ⟨-, today⟩ := of_decide_eq_true (List.mem_filter.mp listed).2
    have dates : dateKey call.usage.timestamp = dateKey now :=
      Option.some.inj (date.symm.trans today)
    cases (agentLine_of_text id own.named).symm.trans shows
    refine ⟨call.usage, usage_mem_usagesOn.mpr ⟨⟨call, called, rfl⟩, owner, ?_⟩, rfl, ?_, rfl⟩
    · exact isoDate_eq_iff.mp dates
    · rw [agent, dates]

/-- An agent that was recorded on the day has a line. -/
theorem agentLine_of_usage (interleaved : Interleaves (calls.map RecordCall.ops) order)
    (free : FreeOf '#' orgId) {usage : TokenUsage} (used : usage ∈ usagesOn calls orgId now) :
    ∃ row ∈ tokenRows (recorded order) orgId (dateKey now), ∃ line, agentLine row.2 = some line ∧
      line.agentId = usage.agentId := by
  obtain ⟨⟨call, called, rfl⟩, rfl, sameDay⟩ := usage_mem_usagesOn.mp used
  have own := plain call called
  have dates : dateKey call.usage.timestamp = dateKey now := isoDate_eq_iff.mpr sameDay
  -- The second operation of the call made the row.
  have written : agentPk call.usage.orgId call.usage.agentId (dateKey now) ∈
      (recorded order).keys := by
    refine TallyTable.mem_keys_run.mpr (.inr ⟨_, (mem_order interleaved).mpr ⟨call, called,
      List.mem_cons_of_mem _ List.mem_cons_self⟩, ?_⟩)
    rw [← dates]
    rfl
  obtain ⟨row, stored⟩ := Dict.mem_keys_iff.mp written
  obtain ⟨id, date⟩ := texts_agent plain interleaved own.agent stored
  refine ⟨(_, row), List.mem_filter.mpr ⟨Dict.mem_entries_of_get? stored, ?_⟩,
    _, agentLine_of_text id own.named, rfl⟩
  exact decide_eq_true ⟨(beginsWith_agentPk own.org free _ _).mpr rfl, date⟩

/-- The lines are those of the agents that were recorded on the day. -/
theorem agentId_mem_tokenLines (interleaved : Interleaves (calls.map RecordCall.ops) order)
    (free : FreeOf '#' orgId) :
    agentId ∈ (tokenLines (recorded order) orgId (dateKey now)).map TokenLine.agentId ↔
      ∃ usage ∈ usagesOn calls orgId now, usage.agentId = agentId := by
  unfold tokenLines
  simp only [List.mem_map, List.mem_filterMap]
  constructor
  · rintro ⟨line, ⟨row, listed, shows⟩, rfl⟩
    obtain ⟨usage, used, named, -⟩ := usage_of_agentLine plain interleaved free listed shows
    exact ⟨usage, used, named.symm⟩
  · rintro ⟨usage, used, rfl⟩
    obtain ⟨row, listed, line, shows, named⟩ := agentLine_of_usage plain interleaved free used
    exact ⟨line, ⟨row, listed, shows⟩, named⟩

/-- No agent has two lines: they would come from one row. -/
theorem nodup_tokenLines (interleaved : Interleaves (calls.map RecordCall.ops) order)
    (free : FreeOf '#' orgId) :
    ((tokenLines (recorded order) orgId (dateKey now)).map TokenLine.agentId).Nodup := by
  have keys : (tokenRows (recorded order) orgId (dateKey now)).Pairwise
      fun left right => left.1 ≠ right.1 :=
    List.pairwise_map.mp ((recorded order).nodup.sublist (List.Sublist.map _ List.filter_sublist))
  unfold tokenLines
  rw [List.map_filterMap, List.Nodup, List.pairwise_filterMap]
  refine keys.imp_of_mem fun {left right} first second different id named other also same => ?_
  subst same
  obtain ⟨line, shows, rfl⟩ := Option.map_eq_some_iff.mp named
  obtain ⟨twin, alsoShows, twins⟩ := Option.map_eq_some_iff.mp also
  obtain ⟨usage, -, here, leftKey, -⟩ := usage_of_agentLine plain interleaved free first shows
  obtain ⟨later, -, there, rightKey, -⟩ :=
    usage_of_agentLine plain interleaved free second alsoShows
  rw [← here] at leftKey
  rw [← there, twins] at rightKey
  exact different (leftKey.trans rightKey.symm)

omit plain in
/-- Amounts other than costs are whole numbers. -/
theorem sumOf_whole (usages : List TokenUsage) {field : TokenAmount}
    (noCost : field ≠ .costUsdEst) : ∃ whole : Int, sumOf usages field = whole := by
  induction usages with
  | nil => exact ⟨0, by simp [sumOf]⟩
  | cons usage rest inductionHypothesis =>
      obtain ⟨others, summed⟩ := inductionHypothesis
      have here : ∃ amount : Int, usage.amount field = amount := by
        cases field with
        | inputTokens => exact ⟨_, rfl⟩
        | outputTokens => exact ⟨_, rfl⟩
        | costUsdEst => exact absurd rfl noCost
        | invocations => exact ⟨1, by simp [TokenUsage.amount]⟩
      obtain ⟨amount, own⟩ := here
      refine ⟨amount + others, ?_⟩
      unfold sumOf at summed ⊢
      rw [List.map_cons, List.sum_cons, own, summed, Int.cast_add]

omit plain in
theorem truncate_intCast (whole : Int) : truncate whole = whole := by
  unfold truncate
  split
  · exact Rat.floor_intCast whole
  · exact Rat.ceil_intCast whole

omit plain in
/-- A row that adds up events is shown as it is. -/
theorem shown_of_sum {row : TallyRow} {usages : List TokenUsage} {field : TokenAmount}
    (adds : row.number field.attr = sumOf usages field) :
    shown row field = sumOf usages field := by
  by_cases cost : field = .costUsdEst
  · subst cost
    exact adds
  · obtain ⟨whole, summed⟩ := sumOf_whole usages cost
    have truncated : shown row field = truncate (row.number field.attr) := by
      cases field with
      | inputTokens => rfl
      | outputTokens => rfl
      | costUsdEst => exact absurd rfl cost
      | invocations => rfl
    rw [truncated, adds, summed, truncate_intCast]

/-- A line shows the sum of its agent's events. -/
theorem totals_of_mem (interleaved : Interleaves (calls.map RecordCall.ops) order)
    (free : FreeOf '#' orgId) {line : TokenLine}
    (member : line ∈ tokenLines (recorded order) orgId (dateKey now)) (field : TokenAmount) :
    line.totals field =
        (dailyAgentTotal (recorded order) orgId line.agentId (dateKey now)).number field.attr ∧
      line.totals field = sumOf ((usagesOn calls orgId now).filter fun usage =>
        usage.agentId = line.agentId) field := by
  obtain ⟨row, listed, shows⟩ := List.mem_filterMap.mp member
  obtain ⟨usage, used, named, key, totals⟩ :=
    usage_of_agentLine plain interleaved free listed shows
  obtain ⟨⟨call, called, rfl⟩, -⟩ := usage_mem_usagesOn.mp used
  have stored : (recorded order).get? row.1 = some row.2 :=
    Dict.get?_of_mem_entries (List.mem_filter.mp listed).1
  have own : dailyAgentTotal (recorded order) orgId line.agentId (dateKey now) = row.2 := by
    unfold dailyAgentTotal
    rw [named, ← key, stored]
    rfl
  have agentFree : FreeOf '#' line.agentId := named ▸ (plain call called).agent
  have adds := @number_agent calls order orgId line.agentId now plain interleaved agentFree field
  rw [own] at adds ⊢
  rw [totals, shown_of_sum adds]
  exact ⟨adds.symm, rfl⟩

/-- The lines of the agents add up to the events of the organisation. -/
theorem sum_tokenLines (interleaved : Interleaves (calls.map RecordCall.ops) order)
    (free : FreeOf '#' orgId) (field : TokenAmount) :
    ((tokenLines (recorded order) orgId (dateKey now)).map fun line => line.totals field).sum =
      sumOf (usagesOn calls orgId now) field := by
  have covers : ∀ usage ∈ usagesOn calls orgId now, usage.agentId ∈
      (tokenLines (recorded order) orgId (dateKey now)).map TokenLine.agentId := by
    intro usage used
    exact (agentId_mem_tokenLines plain interleaved free).mpr ⟨usage, used, rfl⟩
  have groups := sum_map_groups TokenUsage.agentId (fun usage => usage.amount field)
    (nodup_tokenLines plain interleaved free) covers
  rw [List.map_map] at groups
  refine Eq.trans (congrArg List.sum (List.map_congr_left fun line member => ?_)) groups
  exact (totals_of_mem plain interleaved free member field).2

end Recorded

/-- However the operations of concurrent records are interleaved, the rows, the
report and the events agree, for every organisation and day. -/
theorem agrees_of_interleaved {calls : List RecordCall} {order : List TallyOp}
    (plain : ∀ call ∈ calls, call.Plain)
    (interleaved : Interleaves (calls.map RecordCall.ops) order)
    (rank : Decimal → Decimal) {orgId : OrgId} (free : FreeOf '#' orgId) (now : Int) :
    Agrees (usagesOn calls orgId now) (recorded order)
      (tokensToday rank (recorded order) orgId now) := by
  have sorted : (tokensToday rank (recorded order) orgId now).perAgent.Perm
      (tokenLines (recorded order) orgId (dateKey now)) := List.mergeSort_perm _ _
  have ids := sorted.map TokenLine.agentId
  constructor
  · exact number_org interleaved free
  · intro field
    exact shown_of_sum (number_org interleaved free field)
  · intro field
    rw [← sum_tokenLines plain interleaved free field]
    exact (sorted.map fun line => line.totals field).sum_eq
  · exact ids.nodup_iff.mpr (nodup_tokenLines plain interleaved free)
  · intro agentId
    exact ids.mem_iff.trans (agentId_mem_tokenLines plain interleaved free)
  · intro line member field
    exact totals_of_mem plain interleaved free (sorted.mem_iff.mp member) field

/-- Two agents of an organisation record at the same time: the second one writes the
row of the organisation, and the rest only after the first one is done. -/
theorem agrees_two_agents :
    let first : RecordCall := ⟨⟨"acme", "alpha", "strategy", "m", 3, 1, 1 / 2, 1777213997⟩, "a"⟩
    let second : RecordCall := ⟨⟨"acme", "beta", "strategy", "m", 5, 2, 1 / 4, 1777213998⟩, "b"⟩
    ∃ order, Interleaves [first.ops, second.ops] order ∧
      Agrees [first.usage, second.usage] (recorded order)
        (tokensToday id (recorded order) "acme" 1777213999) := by
  intro first second
  have plain : ∀ call ∈ [first, second], call.Plain := by
    intro call member
    rcases List.mem_pair.mp member with rfl | rfl
    · exact ⟨by decide, by decide, by decide⟩
    · exact ⟨by decide, by decide, by decide⟩
  have interleaved : Interleaves [first.ops, second.ops]
      (second.ops.take 1 ++ [first.ops, second.ops.drop 1].flatten) :=
    @Interleaves.step TallyOp [first.ops] [] _ _ _
      (Interleaves.sequential [first.ops, second.ops.drop 1])
  have used : usagesOn [first, second] "acme" 1777213999 = [first.usage, second.usage] := by
    decide +kernel
  refine ⟨_, interleaved, ?_⟩
  rw [← used]
  exact agrees_of_interleaved plain interleaved id (by decide) 1777213999

end Dashboard

end TradingStrands
