import TradingStrands.StrategiesStore.Store

/-!
Owns the proposals of prompt edits: what a row has to hold to be read as one,
and the transition of a pending proposal to its decision. A proposal is looked
up by its id under the prefix of its strategy, since the key also carries the
time of its creation.
-/

namespace TradingStrands

open TradingStrands.Foundation TableProgram

inductive ProposalStatus
  | pending
  | applied
  | rejected
deriving DecidableEq, Repr

def ProposalStatus.value : ProposalStatus → String
  | .pending => "pending"
  | .applied => "applied"
  | .rejected => "rejected"

def ProposalStatus.ofValue? (value : String) : Option ProposalStatus :=
  [ProposalStatus.pending, .applied, .rejected].find? fun status => status.value = value

structure StrategyProposal where
  proposalId : String
  strategyId : String
  orgId : OrgId
  proposerAgent : String
  proposerAgentId : String
  createdAt : Int
  rationale : String
  proposedMarkdown : String
  status : ProposalStatus := .pending
  decidedBy : String := ""
  decidedAt : Int := 0
deriving DecidableEq, Repr

namespace StrategyProposal

variable (libraries : Libraries)

def readStatus (item : Item) : Except CallError ProposalStatus :=
  match item.attr? "status" with
  | none => .ok .pending
  | some (.text value) =>
      match ProposalStatus.ofValue? value with
      | none => .error (.validation "status")
      | some status => .ok status
  | _ => .error (.validation "status")

def readDecidedAt (item : Item) : Except CallError Int :=
  match item.attr? "decided_at" with
  | none => .ok 0
  | some _ => item.int libraries "decided_at"

/-- `StrategyProposal.model_validate`; unknown attributes are ignored. -/
def modelValidate (item : Item) : Except CallError StrategyProposal := do
  let proposalId ← item.text "proposal_id"
  let strategyId ← item.text "strategy_id"
  let orgId ← item.text "org_id"
  let proposerAgent ← item.text "proposer_agent"
  let proposerAgentId ← item.text "proposer_agent_id"
  let createdAt ← item.int libraries "created_at"
  let rationale ← item.text "rationale"
  let proposedMarkdown ← item.text "proposed_markdown"
  let status ← readStatus item
  let decidedBy ← item.textD "decided_by" ""
  let decidedAt ← readDecidedAt libraries item
  return { proposalId, strategyId, orgId, proposerAgent, proposerAgentId, createdAt, rationale,
           proposedMarkdown, status, decidedBy, decidedAt }

end StrategyProposal

namespace StrategyProposalsStore

variable (libraries : Libraries)

def proposalPrefix (strategyId : String) : String :=
  "STRATEGYPROPOSAL" ++ "#" ++ (strategyId ++ "#")

/-- The key of a proposal, whose creation time only the row knows. -/
def findPk (strategyId proposalId : String) : TableProgram String := do
  let rows ← scanPrefix (proposalPrefix strategyId)
  match rows.filter fun row => row.2.attr? "proposal_id" = some (.text proposalId) with
  | [] => throw (.notFound proposalId)
  | row :: _ => return row.1

def get (strategyId proposalId : String) : TableProgram StrategyProposal := do
  let pk ← findPk strategyId proposalId
  match ← getItem pk with
  | none => throw (.notFound proposalId)
  | some item => parsed (StrategyProposal.modelValidate libraries item)

/-- Decide a pending proposal. The condition on the write keeps an earlier
decision from being changed. -/
def decide (strategyId proposalId : String) (status : ProposalStatus) (decidedBy : UserId)
    (now : Int) : TableProgram StrategyProposal := do
  if status = .pending then throw (.service "cannot transition a proposal back to pending")
  let pk ← findPk strategyId proposalId
  match ← updateWhere pk "status" (.text ProposalStatus.pending.value)
      [("status", .text status.value), ("decided_by", .text decidedBy),
        ("decided_at", .number now)] with
  | none => throw .conditionalCheckFailed
  | some item => parsed (StrategyProposal.modelValidate libraries item)

theorem familyOf_of_proposalPrefix {strategyId pk : String}
    (begins : beginsWith pk (proposalPrefix strategyId) = true) :
    familyOf '#' pk = "STRATEGYPROPOSAL".toList :=
  familyOf_of_beginsWith (by decide) (by decide) begins

theorem not_proposalPrefix {strategyId pk : String}
    (apart : familyOf '#' pk ≠ "STRATEGYPROPOSAL".toList) :
    beginsWith pk (proposalPrefix strategyId) = false :=
  Table.not_beginsWith_of_family (by decide) (by decide) apart

theorem findPk_reads (strategyId proposalId : String) : ReadsOnly (findPk strategyId proposalId) := by
  refine Program.All.bind (writesIn_scanPrefix _) fun rows => ?_
  split <;> trivial

theorem get_reads (strategyId proposalId : String) :
    ReadsOnly (get libraries strategyId proposalId) := by
  refine Program.All.bind (findPk_reads _ _) fun pk => ?_
  refine Program.All.bind writesIn_getItem fun stored => ?_
  cases stored <;> trivial

/-- The rows of a proposal. -/
def matching (table : Table) (strategyId proposalId : String) : List (String × Item) :=
  (table.scanPrefix (proposalPrefix strategyId)).filter fun row =>
    row.2.attr? "proposal_id" = some (.text proposalId)

/-- Rows of other families do not matter. -/
theorem matching_putItem_of_family (table : Table) (strategyId proposalId : String) {pk : String}
    (item : Item) (apart : familyOf '#' pk ≠ "STRATEGYPROPOSAL".toList) :
    matching (table.putItem pk item) strategyId proposalId =
      matching table strategyId proposalId := by
  unfold matching
  rw [Table.scanPrefix_putItem_of_not table item (not_proposalPrefix apart)]

theorem getItem_of_matching {table : Table} {strategyId proposalId : String}
    {row : String × Item} {rest : List (String × Item)}
    (rows : matching table strategyId proposalId = row :: rest) :
    table.getItem row.1 = some row.2 ∧ beginsWith row.1 (proposalPrefix strategyId) = true := by
  have member : row ∈ matching table strategyId proposalId := rows ▸ List.mem_cons_self
  exact Table.mem_scanPrefix_iff.mp (List.mem_filter.mp member).1

/-- A write to the first row that keeps the id leaves it the first. -/
theorem matching_putItem_first {table : Table} {strategyId proposalId : String}
    {row : String × Item} {rest : List (String × Item)}
    (rows : matching table strategyId proposalId = row :: rest) {item : Item}
    (same : item.attr? "proposal_id" = row.2.attr? "proposal_id") :
    ∃ others, matching (table.putItem row.1 item) strategyId proposalId =
      (row.1, item) :: others := by
  have stored := (getItem_of_matching rows).1
  unfold matching at rows ⊢
  rw [Table.filter_scanPrefix_putItem table item stored]
  · rw [rows, List.map_cons, if_pos rfl]
    exact ⟨_, rfl⟩
  · dsimp only
    rw [same]

theorem runAlone_findPk (table : Table) (strategyId proposalId : String) :
    runAlone (findPk strategyId proposalId) table =
      (match matching table strategyId proposalId with
        | [] => .error (.notFound proposalId)
        | row :: _ => .ok row.1, table) := by
  unfold findPk matching
  rw [runAlone_bind, runAlone_scanPrefix]
  dsimp only
  cases (table.scanPrefix (proposalPrefix strategyId)).filter fun row =>
    row.2.attr? "proposal_id" = some (.text proposalId) <;> rfl

/-- A proposal that is found was read from the first of its rows. -/
theorem get_ok {libraries : Libraries} {table : Table} {strategyId proposalId : String}
    {proposal : StrategyProposal}
    (found : (runAlone (get libraries strategyId proposalId) table).1 = .ok proposal) :
    ∃ row rest, matching table strategyId proposalId = row :: rest ∧
      table.getItem row.1 = some row.2 ∧ familyOf '#' row.1 = "STRATEGYPROPOSAL".toList ∧
        StrategyProposal.modelValidate libraries row.2 = .ok proposal := by
  unfold get at found
  rw [runAlone_bind, runAlone_findPk] at found
  cases rows : matching table strategyId proposalId with
  | nil =>
      rw [rows] at found
      cases found
  | cons row rest =>
      rw [rows] at found
      dsimp only at found
      rw [runAlone_bind, runAlone_getItem] at found
      dsimp only at found
      obtain ⟨stored, begins⟩ := getItem_of_matching rows
      rw [stored] at found
      exact ⟨row, rest, rfl, stored, familyOf_of_proposalPrefix begins, found⟩

/-- The decision of a proposal whose row is pending. -/
theorem runAlone_decide {table : Table} {strategyId proposalId : String} {row : String × Item}
    {rest : List (String × Item)} (rows : matching table strategyId proposalId = row :: rest)
    (stored : table.getItem row.1 = some row.2)
    (pending : row.2.attr? "status" = some (.text ProposalStatus.pending.value))
    (status : ProposalStatus) (decides : status ≠ .pending) (decidedBy : UserId) (now : Int) :
    runAlone (decide libraries strategyId proposalId status decidedBy now) table =
      (StrategyProposal.modelValidate libraries (row.2.update [("status", .text status.value),
          ("decided_by", .text decidedBy), ("decided_at", .number now)]),
        table.putItem row.1 (row.2.update [("status", .text status.value),
          ("decided_by", .text decidedBy), ("decided_at", .number now)])) := by
  unfold decide
  rw [if_neg decides]
  change runAlone (findPk strategyId proposalId >>= _) table = _
  rw [runAlone_bind, runAlone_findPk, rows]
  dsimp only
  rw [runAlone_bind]
  unfold updateWhere
  rw [runAlone, Program.run_perform]
  simp only [TableOp.apply, stored, pending, if_true]
  rfl

end StrategyProposalsStore

/-! ### A decision on a proposal that reads -/

namespace StrategyProposal

variable {libraries : Libraries} {item : Item}

def schema (libraries : Libraries) : Schema :=
  [("proposal_id", Attr.required Attr.isText), ("strategy_id", Attr.required Attr.isText),
    ("org_id", Attr.required Attr.isText), ("proposer_agent", Attr.required Attr.isText),
    ("proposer_agent_id", Attr.required Attr.isText),
    ("created_at", Attr.required (Strategy.acceptsInt libraries)),
    ("rationale", Attr.required Attr.isText), ("proposed_markdown", Attr.required Attr.isText),
    ("status", Attr.optional fun value =>
      match value with
      | .text value => (ProposalStatus.ofValue? value).isSome
      | _ => false),
    ("decided_by", Attr.optional Attr.isText),
    ("decided_at", Attr.optional (Strategy.acceptsInt libraries))]

theorem readStatus_isOk_iff :
    (∃ status, readStatus item = .ok status) ↔
      Attr.optional (fun value =>
        match value with
        | .text value => (ProposalStatus.ofValue? value).isSome
        | _ => false) (item.attr? "status") = true := by
  unfold readStatus
  cases item.attr? "status" with
  | none => simp [Attr.optional]
  | some value =>
      cases value with
      | text value =>
          simp only [Attr.optional]
          cases ProposalStatus.ofValue? value <;> simp
      | _ => simp [Attr.optional]

theorem readDecidedAt_isOk_iff :
    (∃ value, readDecidedAt libraries item = .ok value) ↔
      Attr.optional (Strategy.acceptsInt libraries) (item.attr? "decided_at") = true := by
  unfold readDecidedAt
  cases stored : item.attr? "decided_at" with
  | none => simp [Attr.optional]
  | some value =>
      dsimp only
      rw [Item.int_isOk_iff, stored]
      rfl

theorem modelValidate_isOk_iff :
    (∃ proposal, modelValidate libraries item = .ok proposal) ↔
      (schema libraries).Conforms item := by
  unfold Schema.Conforms schema
  simp only [List.forall_mem_cons, List.not_mem_nil, false_imp_iff, implies_true, and_true,
    ← Item.text_isOk_iff, ← @Item.textD_isOk_iff _ _ "", ← Item.int_isOk_iff,
    ← readStatus_isOk_iff, ← readDecidedAt_isOk_iff]
  unfold modelValidate
  simp only [bind_ok_iff]
  constructor
  · rintro ⟨_, id, readId, strategy, readStrategy, org, readOrg, agent, readAgent, agentId,
      readAgentId, created, readCreated, rationale, readRationale, text, readText, status,
      readStatus, decider, readDecider, decided, readDecided, -⟩
    exact ⟨⟨id, readId⟩, ⟨strategy, readStrategy⟩, ⟨org, readOrg⟩, ⟨agent, readAgent⟩,
      ⟨agentId, readAgentId⟩, ⟨created, readCreated⟩, ⟨rationale, readRationale⟩, ⟨text, readText⟩,
      ⟨status, readStatus⟩, ⟨decider, readDecider⟩, decided, readDecided⟩
  · rintro ⟨⟨id, readId⟩, ⟨strategy, readStrategy⟩, ⟨org, readOrg⟩, ⟨agent, readAgent⟩,
      ⟨agentId, readAgentId⟩, ⟨created, readCreated⟩, ⟨rationale, readRationale⟩, ⟨text, readText⟩,
      ⟨status, readStatus⟩, ⟨decider, readDecider⟩, decided, readDecided⟩
    exact ⟨_, id, readId, strategy, readStrategy, org, readOrg, agent, readAgent, agentId,
      readAgentId, created, readCreated, rationale, readRationale, text, readText, status,
      readStatus, decider, readDecider, decided, readDecided, rfl⟩

/-- A decided proposal still reads. -/
theorem modelValidate_decided {proposal : StrategyProposal}
    (reads : modelValidate libraries item = .ok proposal) (status : ProposalStatus)
    (decidedBy : UserId) (now : Int) :
    ∃ decided, modelValidate libraries
      (item.update [("status", .text status.value), ("decided_by", .text decidedBy),
        ("decided_at", .number now)]) = .ok decided := by
  rw [modelValidate_isOk_iff]
  refine (modelValidate_isOk_iff.mp ⟨proposal, reads⟩).update fun set member => ?_
  unfold Schema.AcceptsSet schema
  simp only [List.mem_cons, List.not_mem_nil, or_false] at member
  obtain rfl | rfl | rfl := member
  · cases status <;> simp [Attr.optional, ProposalStatus.ofValue?, ProposalStatus.value]
  · simp [Attr.optional, Attr.isText]
  · simp [Attr.optional, Strategy.acceptsInt, libraries.row_number]

/-- What a proposal read from a row says of the row. -/
theorem attrs_of_modelValidate {proposal : StrategyProposal}
    (reads : modelValidate libraries item = .ok proposal) :
    item.attr? "proposed_markdown" = some (.text proposal.proposedMarkdown) ∧
      readStatus item = .ok proposal.status := by
  unfold modelValidate at reads
  simp only [bind_ok_iff] at reads
  obtain ⟨id, -, strategy, -, org, -, agent, -, agentId, -, created, -, rationale, -, text, readText,
    status, readStatus, decider, -, decided, -, same⟩ := reads
  cases same
  exact ⟨Item.attr?_of_text readText, readStatus⟩

/-- A proposal that reads as pending, from a row with a status, can be decided. -/
theorem attr?_status_of_pending {proposal : StrategyProposal}
    (reads : modelValidate libraries item = .ok proposal) (pending : proposal.status = .pending)
    (present : item.attr? "status" ≠ none) :
    item.attr? "status" = some (.text ProposalStatus.pending.value) := by
  have readStatus := (attrs_of_modelValidate reads).2
  rw [pending] at readStatus
  unfold StrategyProposal.readStatus at readStatus
  split at readStatus
  next absent => exact absurd absent present
  next value stored =>
    split at readStatus
    · cases readStatus
    next status known =>
      cases readStatus
      have named := List.find?_some known
      simp only [decide_eq_true_eq] at named
      rw [stored, ← named]
  · cases readStatus

end StrategyProposal

end TradingStrands
