import TradingStrands.Dashboard.Strategies
import TradingStrands.Foundation.Stages

/-!
Owns the decisions on one proposal by any number of apply and reject requests,
interleaved operation by operation. The conditional write records at most one
decision and never changes it. The markdown of the strategy is written before
the decision, so a reject that decides after an apply has read the proposal
leaves a rejected proposal whose text is in the strategy.

Does not own: other writers of the two rows.
-/

namespace TradingStrands

open TradingStrands.Foundation TableProgram

/-- A proposal as the table has it. -/
structure ProposalRef where
  strategyId : String
  proposalId : String
  /-- The key of its row. -/
  pk : String
  /-- The markdown it proposes. -/
  text : String

inductive DecisionRequest
  | apply (session : Option Session) (now : Int)
  | reject (session : Option Session) (now : Int)

def DecisionRequest.program (deploy : Deploy) (libraries : Libraries) (target : ProposalRef) :
    DecisionRequest → TableProgram StrategyProposal
  | .apply session now => Dashboard.applyStrategyProposal deploy libraries session
      target.strategyId target.proposalId now
  | .reject session now => Dashboard.rejectStrategyProposal deploy libraries session
      target.strategyId target.proposalId now

abbrev DecisionPool : Type :=
  Pool TableOp TableOp.Answer CallError StrategyProposal Table DecisionRequest

abbrev DecisionEvent : Type := PoolEvent CallError DecisionRequest

namespace ProposalDecisions

/-! ### What a run shows -/

section Property

variable (deploy : Deploy) (libraries : Libraries) (target : ProposalRef)

abbrev step : DecisionPool → DecisionEvent → DecisionPool :=
  Pool.step TableOp.apply (DecisionRequest.program deploy libraries target)

/-- The status the row of the proposal carries. -/
def HasStatus (table : Table) (status : ProposalStatus) : Prop :=
  (table.getItem target.pk).bind (·.attr? "status") = some (.text status.value)

instance (table : Table) (status : ProposalStatus) : Decidable (HasStatus target table status) :=
  inferInstanceAs (Decidable (_ = _))

/-- The step turns the pending proposal into a decided one. -/
def Records (status : ProposalStatus) (pool : DecisionPool) (event : DecisionEvent) : Prop :=
  match pool.next? event with
  | some (_, .updateWhere pk _ _ fields, none) =>
      pk = target.pk ∧ HasStatus target pool.state .pending ∧
        Item.attr? fields "status" = some (.text status.value)
  | _ => False

/-- The step puts the proposed text into the strategy. -/
def ReplacesMarkdown (pool : DecisionPool) (event : DecisionEvent) : Prop :=
  match pool.next? event with
  | some (_, .updateItem pk fields, none) =>
      pk = StrategyStore.strategyPk target.strategyId ∧ (pool.state.getItem pk).isSome = true ∧
        Item.attr? fields "markdown" = some (.text target.text)
  | _ => False

instance (pool : DecisionPool) (event : DecisionEvent) :
    Decidable (ReplacesMarkdown target pool event) := by
  unfold ReplacesMarkdown
  split <;> infer_instance

/-- What an apply request sets in the strategy. -/
def markdownAttrs (now : Int) : List (String × Attr) :=
  [("updated_at", .number now), ("markdown", .text target.text)]

/-- The step is the read of the pending proposal by an apply request whose text
the table takes. -/
def ReadsToApply (pool : DecisionPool) (event : DecisionEvent) : Prop :=
  match pool.next? event with
  | some (.apply _ now, .getItem pk, none) =>
      pk = target.pk ∧ HasStatus target pool.state .pending ∧
        libraries.accepts (markdownAttrs target now) = true
  | _ => False

/-- All requests have ended and none of their operations was cut short. -/
structure Complete (start : DecisionPool) (events : List DecisionEvent) : Prop where
  undisturbed : ∀ event ∈ events, ∀ index error, event ≠ .advance index (some error)
  ended : ∀ thread ∈ (run (step deploy libraries target) start events).threads,
    thread.program.ended = true

/-- At most one decision is recorded, it is never changed, and the text was put
into the strategy exactly if the proposal is applied. -/
structure OneDecision (start : DecisionPool) (events : List DecisionEvent) : Prop where
  once : ¬ Precedes (step deploy libraries target) (fun pool event => ∃ status,
      Records target status pool event) (fun pool event => ∃ status,
        Records target status pool event) start events
  keeps : ∀ before later, events = before ++ later → ∀ status, status ≠ .pending →
    HasStatus target (run (step deploy libraries target) start before).state status →
      (run (step deploy libraries target) start events).state.getItem target.pk =
        (run (step deploy libraries target) start before).state.getItem target.pk
  linked : Complete deploy libraries target start events →
    (SomeStep (step deploy libraries target) (ReplacesMarkdown target) start events ↔
      HasStatus target (run (step deploy libraries target) start events).state .applied)

/-- No reject decides after an apply has read the pending proposal. -/
def NoLateReject (start : DecisionPool) (events : List DecisionEvent) : Prop :=
  ¬ Precedes (step deploy libraries target) (ReadsToApply libraries target)
    (Records target .rejected) start events

/-- The proposal and the strategy it is for are there, and both read. -/
structure Underway (table : Table) : Prop where
  strategy : ∃ item, table.getItem (StrategyStore.strategyPk target.strategyId) = some item ∧
    (Strategy.schema libraries).Conforms item
  proposal : ∃ row rest proposal,
    StrategyProposalsStore.matching table target.strategyId target.proposalId =
        (target.pk, row) :: rest ∧
      StrategyProposal.modelValidate libraries row = .ok proposal ∧
        proposal.proposedMarkdown = target.text
  status : ∃ status, HasStatus target table status

end Property

/-! ### What the writes keep -/

section Writes

variable {libraries : Libraries} {target : ProposalRef} {table : Table}

/-- What a decision sets in the proposal. -/
def decisionFields (status : ProposalStatus) (decidedBy : UserId) (now : Int) :
    List (String × Attr) :=
  [("status", .text status.value), ("decided_by", .text decidedBy), ("decided_at", .number now)]

def decideOp (target : ProposalRef) (status : ProposalStatus) (decidedBy : UserId) (now : Int) :
    TableOp :=
  .updateWhere target.pk "status" (.text ProposalStatus.pending.value)
    (decisionFields status decidedBy now)

def replaceOp (target : ProposalRef) (now : Int) : TableOp :=
  .updateItem (StrategyStore.strategyPk target.strategyId) (markdownAttrs target now)

theorem HasStatus.unique {left right : ProposalStatus} (first : HasStatus target table left)
    (second : HasStatus target table right) : left = right := by
  have same : left.value = right.value :=
    Attr.text.inj (Option.some.inj (first.symm.trans second))
  revert same
  cases left <;> cases right <;> decide

theorem HasStatus.not_of_ne {left right : ProposalStatus} (has : HasStatus target table left)
    (different : left ≠ right) : ¬ HasStatus target table right :=
  fun other => different (has.unique other)

theorem readStatus_of_attr {item : Item} {status : ProposalStatus}
    (stored : item.attr? "status" = some (.text status.value)) :
    StrategyProposal.readStatus item = .ok status := by
  unfold StrategyProposal.readStatus
  rw [stored]
  cases status <;> rfl

/-- The row of the proposal and what it reads as. -/
theorem Underway.row (underway : Underway libraries target table) :
    ∃ row rest proposal,
      StrategyProposalsStore.matching table target.strategyId target.proposalId =
          (target.pk, row) :: rest ∧
        table.getItem target.pk = some row ∧
          StrategyProposal.modelValidate libraries row = .ok proposal ∧
            proposal.proposedMarkdown = target.text ∧
              ∀ status, HasStatus target table status ↔
                row.attr? "status" = some (.text status.value) := by
  obtain ⟨row, rest, proposal, rows, reads, text⟩ := underway.proposal
  have stored := (StrategyProposalsStore.getItem_of_matching rows).1
  refine ⟨row, rest, proposal, rows, stored, reads, text, fun status => ?_⟩
  unfold HasStatus
  rw [stored]
  rfl

theorem Underway.familyOf_pk (underway : Underway libraries target table) :
    familyOf '#' target.pk = "STRATEGYPROPOSAL".toList := by
  obtain ⟨row, rest, proposal, rows, -⟩ := underway.proposal
  exact StrategyProposalsStore.familyOf_of_proposalPrefix
    (StrategyProposalsStore.getItem_of_matching rows).2

theorem Underway.ne_strategyPk (underway : Underway libraries target table) (strategyId : String) :
    target.pk ≠ StrategyStore.strategyPk strategyId := by
  have apart : familyOf '#' target.pk ≠ familyOf '#' (StrategyStore.strategyPk strategyId) := by
    rw [underway.familyOf_pk, StrategyStore.familyOf_strategyPk]
    decide
  exact ne_of_family apart

theorem hasStatus_congr {other : Table} (same : other.getItem target.pk = table.getItem target.pk)
    (status : ProposalStatus) :
    HasStatus target other status ↔ HasStatus target table status := by
  unfold HasStatus
  rw [same]

theorem conforms_markdown {item : Item} (conforms : (Strategy.schema libraries).Conforms item)
    (now : Int) : (Strategy.schema libraries).Conforms (item.update (markdownAttrs target now)) := by
  refine conforms.update fun set member => ?_
  simp only [markdownAttrs, List.mem_cons, List.not_mem_nil, or_false] at member
  unfold Schema.AcceptsSet Strategy.schema
  obtain rfl | rfl := member
  · simp [Attr.required, Strategy.acceptsInt, libraries.row_number]
  · simp [Attr.required, Attr.isText]

/-- The write of an apply request is the proposed text in a strategy that still reads. -/
theorem Underway.replace (underway : Underway libraries target table) (now : Int) :
    Underway libraries target ((replaceOp target now).apply table).2 ∧
      ((replaceOp target now).apply table).2.getItem target.pk = table.getItem target.pk := by
  obtain ⟨item, stored, conforms⟩ := underway.strategy
  have family : familyOf '#' (StrategyStore.strategyPk target.strategyId) ≠
      "STRATEGYPROPOSAL".toList := by
    rw [StrategyStore.familyOf_strategyPk]
    decide
  have written : ((replaceOp target now).apply table).2 =
      table.putItem (StrategyStore.strategyPk target.strategyId)
        (item.update (markdownAttrs target now)) := by
    unfold replaceOp TableOp.apply
    dsimp only
    rw [stored]
  have kept : ((replaceOp target now).apply table).2.getItem target.pk =
      table.getItem target.pk := by
    rw [written]
    exact Table.getItem_putItem_of_ne table _ (underway.ne_strategyPk _)
  refine ⟨⟨?_, ?_, ?_⟩, kept⟩
  · rw [written]
    exact ⟨_, Table.getItem_putItem_self _ _ _, conforms_markdown conforms now⟩
  · rw [written, StrategyProposalsStore.matching_putItem_of_family _ _ _ _ family]
    exact underway.proposal
  · obtain ⟨status, has⟩ := underway.status
    exact ⟨status, (hasStatus_congr kept status).mpr has⟩

/-- A conditional write leaves a proposal that is not pending as it is. -/
theorem apply_decideOp_of_not_pending (decided : ¬ HasStatus target table .pending)
    (status : ProposalStatus) (decidedBy : UserId) (now : Int) :
    ((decideOp target status decidedBy now).apply table).2 = table := by
  unfold decideOp TableOp.apply
  dsimp only
  cases stored : table.getItem target.pk with
  | none => rfl
  | some row =>
      have other : row.attr? "status" ≠ some (.text ProposalStatus.pending.value) := by
        intro same
        refine decided ?_
        unfold HasStatus
        rw [stored]
        exact same
      simp only [other, if_false]

/-- A conditional write decides a pending proposal. -/
theorem apply_decideOp_of_pending {row : Item} (stored : table.getItem target.pk = some row)
    (pending : HasStatus target table .pending) (status : ProposalStatus) (decidedBy : UserId)
    (now : Int) :
    ((decideOp target status decidedBy now).apply table).2 =
      table.putItem target.pk (row.update (decisionFields status decidedBy now)) := by
  unfold HasStatus at pending
  rw [stored, Option.bind_some] at pending
  unfold decideOp TableOp.apply
  dsimp only
  rw [stored]
  simp only [pending, if_true]

theorem hasStatus_decideOp (pending : HasStatus target table .pending) (status : ProposalStatus)
    (decidedBy : UserId) (now : Int) :
    HasStatus target ((decideOp target status decidedBy now).apply table).2 status := by
  obtain ⟨row, stored, -⟩ := Option.bind_eq_some_iff.mp pending
  rw [apply_decideOp_of_pending stored pending]
  unfold HasStatus
  rw [Table.getItem_putItem_self, Option.bind_some]
  exact row.attr?_update_of_mem (by simp [decisionFields]) (by simp [decisionFields])

theorem Underway.decide (underway : Underway libraries target table)
    (pending : HasStatus target table .pending) (status : ProposalStatus) (decidedBy : UserId)
    (now : Int) :
    Underway libraries target ((decideOp target status decidedBy now).apply table).2 ∧
      HasStatus target ((decideOp target status decidedBy now).apply table).2 status := by
  obtain ⟨row, rest, proposal, rows, stored, reads, text, -⟩ := underway.row
  have written := apply_decideOp_of_pending stored pending status decidedBy now
  have has := hasStatus_decideOp pending status decidedBy now
  refine ⟨⟨?_, ?_, ⟨status, has⟩⟩, has⟩
  · rw [written, Table.getItem_putItem_of_ne _ _ (underway.ne_strategyPk _).symm]
    exact underway.strategy
  · rw [written]
    have sameId : (row.update (decisionFields status decidedBy now)).attr? "proposal_id" =
        row.attr? "proposal_id" := row.attr?_update_of_notMem (by simp [decisionFields])
    obtain ⟨others, first⟩ := StrategyProposalsStore.matching_putItem_first rows sameId
    obtain ⟨decided, readsToo⟩ :=
      StrategyProposal.modelValidate_decided reads status decidedBy now
    refine ⟨_, others, decided, first, readsToo, ?_⟩
    have before := (StrategyProposal.attrs_of_modelValidate reads).1
    have after := (StrategyProposal.attrs_of_modelValidate readsToo).1
    rw [Item.attr?_update_of_notMem _ (by simp), before] at after
    rw [← text]
    exact (Attr.text.inj (Option.some.inj after)).symm

end Writes

/-! ### A decision stays, whatever is cut short -/

section Stays

variable {deploy : Deploy} {libraries : Libraries} {target : ProposalRef}

/-- The operations of the requests: reads, writes to the strategy, and decisions
on pending proposals. -/
def Issues (target : ProposalRef) (op : TableOp) : Prop :=
  op.target? = none ∨
    (∃ fields, op = .updateItem (StrategyStore.strategyPk target.strategyId) fields) ∨
      ∃ pk status decidedBy now, status ≠ .pending ∧
        op = .updateWhere pk "status" (.text ProposalStatus.pending.value)
          (decisionFields status decidedBy now)

theorem issues_of_reads {α : Type} {program : TableProgram α} (reads : ReadsOnly program) :
    program.All TableOp.apply (Issues target) :=
  Program.All.mono (fun _ within => .inl (TableOp.target?_of_writesIn_nil within)) reads

theorem update_issues (fields : List (String × JsonValue)) (now : Int) :
    (StrategyStore.update libraries target.strategyId fields now).All TableOp.apply
      (Issues target) := by
  refine Program.All.bind (issues_of_reads (StrategyStore.prepareUpdate_reads _ _ _)) fun attrs => ?_
  refine Program.All.bind (Program.All.perform (.inr (.inl ⟨attrs, rfl⟩))) fun answer => ?_
  cases answer <;> trivial

theorem decide_issues {status : ProposalStatus} (decides : status ≠ .pending)
    (decidedBy : UserId) (now : Int) :
    (StrategyProposalsStore.decide libraries target.strategyId target.proposalId status decidedBy
      now).All TableOp.apply (Issues target) := by
  unfold StrategyProposalsStore.decide
  rw [if_neg decides]
  refine Program.All.bind (issues_of_reads (StrategyProposalsStore.findPk_reads _ _)) fun pk => ?_
  refine Program.All.bind (Program.All.perform
    (.inr (.inr ⟨pk, status, decidedBy, now, decides, rfl⟩))) fun answer => ?_
  cases answer <;> trivial

theorem program_issues (request : DecisionRequest) :
    (request.program deploy libraries target).All TableOp.apply (Issues target) := by
  have found := (StrategyProposalsStore.get_reads libraries target.strategyId
    target.proposalId).orNotFound "Proposal not found"
  cases request with
  | apply session now =>
      refine Program.All.bind (issues_of_reads (Dashboard.requireUpdate_reads deploy libraries
        session target.strategyId)) fun principal => ?_
      refine Program.All.bind (issues_of_reads found) fun proposal => ?_
      dsimp only
      split
      · trivial
      · exact Program.All.bind (update_issues _ _) fun _ => decide_issues (by decide) _ _
  | reject session now =>
      refine Program.All.bind (issues_of_reads (Dashboard.requireUpdate_reads deploy libraries
        session target.strategyId)) fun principal => ?_
      refine Program.All.bind (issues_of_reads found) fun proposal => ?_
      dsimp only
      split
      · trivial
      · exact decide_issues (by decide) _ _

/-- No operation touches a proposal that is decided. -/
theorem getItem_apply_of_decided {table : Table} {status : ProposalStatus}
    (family : familyOf '#' target.pk = "STRATEGYPROPOSAL".toList) (decided : status ≠ .pending)
    (has : HasStatus target table status) {op : TableOp} (issues : Issues target op) :
    (op.apply table).2.getItem target.pk = table.getItem target.pk := by
  rcases issues with reads | ⟨fields, rfl⟩ | ⟨pk, next, decidedBy, now, -, rfl⟩
  · rw [TableOp.apply_of_no_target reads]
  · refine TableOp.getItem_apply_of_not_target ?_ table
    intro same
    have families := congrArg (familyOf '#') (Option.some.inj same)
    rw [StrategyStore.familyOf_strategyPk, family] at families
    revert families
    decide
  · by_cases own : pk = target.pk
    · subst own
      have kept := apply_decideOp_of_not_pending
        (fun pending => decided (has.unique pending)) next decidedBy now
      exact congrArg (Table.getItem · target.pk) kept
    · refine TableOp.getItem_apply_of_not_target ?_ table
      exact fun same : some pk = some target.pk => own (Option.some.inj same)

/-- Every operation that is left is one the requests issue. -/
def Issued (target : ProposalRef) (pool : DecisionPool) : Prop :=
  pool.Bounded TableOp.apply fun _ => Issues target

theorem Issued.step {pool : DecisionPool} (issued : Issued target pool) (event : DecisionEvent) :
    Issued target (step deploy libraries target pool event) :=
  Pool.Bounded.step issued fun request _ => program_issues request

theorem Issued.run {pool : DecisionPool} (issued : Issued target pool)
    (events : List DecisionEvent) :
    Issued target (run (ProposalDecisions.step deploy libraries target) pool events) := by
  induction events generalizing pool with
  | nil => exact issued
  | cons event rest inductionHypothesis => exact inductionHypothesis (issued.step event)

variable (deploy libraries)

theorem getItem_step_of_decided {pool : DecisionPool} {status : ProposalStatus}
    (family : familyOf '#' target.pk = "STRATEGYPROPOSAL".toList) (decided : status ≠ .pending)
    (issued : Issued target pool) (has : HasStatus target pool.state status)
    (event : DecisionEvent) :
    (step deploy libraries target pool event).state.getItem target.pk =
      pool.state.getItem target.pk := by
  rw [Pool.state_step]
  split
  next request op performs =>
    exact getItem_apply_of_decided family decided has (issued.next performs)
  next => rfl

theorem getItem_run_of_decided {pool : DecisionPool} {status : ProposalStatus}
    (family : familyOf '#' target.pk = "STRATEGYPROPOSAL".toList) (decided : status ≠ .pending)
    (issued : Issued target pool) (has : HasStatus target pool.state status)
    (events : List DecisionEvent) :
    (run (step deploy libraries target) pool events).state.getItem target.pk =
      pool.state.getItem target.pk := by
  induction events generalizing pool with
  | nil => rfl
  | cons event rest inductionHypothesis =>
      have kept := getItem_step_of_decided deploy libraries family decided issued has event
      have hasAfter := (hasStatus_congr kept status).mpr has
      exact (inductionHypothesis (issued.step event) hasAfter).trans kept

/-- A step that records a decision leaves a decided proposal. -/
theorem hasStatus_of_records {pool : DecisionPool} {event : DecisionEvent}
    {status : ProposalStatus} (issued : Issued target pool)
    (records : Records target status pool event) :
    status ≠ .pending ∧
      HasStatus target (step deploy libraries target pool event).state status := by
  unfold Records at records
  split at records
  next request pk name value fields performs =>
    obtain ⟨rfl, pending, sets⟩ := records
    rcases issued.next performs with reads | ⟨_, same⟩ | ⟨_, set, decidedBy, now, decided, same⟩
    · cases reads
    · cases same
    · cases same
      have here : set = status := by
        have values : set.value = status.value := Attr.text.inj (Option.some.inj sets)
        revert values
        cases set <;> cases status <;> decide
      subst here
      rw [Pool.state_step, performs]
      exact ⟨decided, hasStatus_decideOp pending set decidedBy now⟩
  next => exact records.elim

theorem not_someStep_records {pool : DecisionPool} {status : ProposalStatus}
    (family : familyOf '#' target.pk = "STRATEGYPROPOSAL".toList) (decided : status ≠ .pending)
    (issued : Issued target pool) (has : HasStatus target pool.state status)
    (events : List DecisionEvent) :
    ¬ SomeStep (step deploy libraries target)
      (fun pool event => ∃ status, Records target status pool event) pool events := by
  induction events generalizing pool with
  | nil => exact id
  | cons event rest inductionHypothesis =>
      rintro (⟨next, records⟩ | later)
      · unfold Records at records
        split at records
        next => exact decided (has.unique records.2.1)
        next => exact records
      · have kept := getItem_step_of_decided deploy libraries family decided issued has event
        exact inductionHypothesis (issued.step event) ((hasStatus_congr kept status).mpr has) later

/-- No two steps of a run record decisions. -/
theorem recorded_once {pool : DecisionPool}
    (family : familyOf '#' target.pk = "STRATEGYPROPOSAL".toList) (issued : Issued target pool)
    (events : List DecisionEvent) :
    ¬ Precedes (step deploy libraries target)
      (fun pool event => ∃ status, Records target status pool event)
      (fun pool event => ∃ status, Records target status pool event) pool events := by
  induction events generalizing pool with
  | nil => exact id
  | cons event rest inductionHypothesis =>
      rintro (⟨⟨status, records⟩, later⟩ | later)
      · obtain ⟨decided, has⟩ := hasStatus_of_records deploy libraries issued records
        exact not_someStep_records deploy libraries family decided (issued.step event) has rest later
      · exact inductionHypothesis (issued.step event) later

end Stays

/-! ### The stages of a request -/

/-- How far a request is. An apply request holds the proposal from the read on,
until it writes the strategy, and has then still to decide. -/
inductive Stage
  | reading
  | holding
  | deciding
  | ended
  | rejecting
deriving DecidableEq, Repr

section Stages

variable (libraries : Libraries) (target : ProposalRef)

def scanOp : TableOp := .scanPrefix (StrategyProposalsStore.proposalPrefix target.strategyId)

def Legal : DecisionRequest → Stage → TableOp → Table → Prop
  | .apply _ _, .reading, op, _ => op.target? = none
  | .apply _ now, .holding, op, _ => op = replaceOp target now
  | .apply _ now, .deciding, op, _ =>
      op = scanOp target ∨ ∃ decidedBy, op = decideOp target .applied decidedBy now
  | .reject _ now, .rejecting, op, _ =>
      op.target? = none ∨ ∃ decidedBy, op = decideOp target .rejected decidedBy now
  | _, _, _, _ => False

def move : DecisionRequest → Stage → TableOp → Table → Stage
  | .apply _ now, .reading, .getItem pk, table =>
      if pk = target.pk then
        if HasStatus target table .pending ∧
          libraries.accepts (markdownAttrs target now) = true then .holding else .ended
      else .reading
  | _, .holding, _, _ => .deciding
  | _, .deciding, .updateWhere _ _ _ _, _ => .ended
  | _, stage, _, _ => stage

/-- Where a request may end. -/
def Ends (stage : Stage) : Prop := stage ≠ .holding ∧ stage ≠ .deciding

def firstStage : DecisionRequest → Stage
  | .apply _ _ => .reading
  | .reject _ _ => .rejecting

/-- What is left of a program keeps to the stages of its request. -/
abbrev Keeps {α : Type} (request : DecisionRequest) (Last : Except CallError α → Stage → Prop)
    (program : TableProgram α) (stage : Stage) : Prop :=
  program.Follows TableOp.apply (Underway libraries target) (Legal target request)
    (move libraries target request) Last stage

end Stages

section Follows

variable {deploy : Deploy} {libraries : Libraries} {target : ProposalRef}

/-- Reads that do not get a row of the family. -/
def ReadsApart (family : List Char) (op : TableOp) : Prop :=
  op.target? = none ∧ ∀ pk, op = .getItem pk → familyOf '#' pk ≠ family

theorem readsApart_getItem {family : List Char} {pk : String} (apart : familyOf '#' pk ≠ family) :
    ReadsApart family (.getItem pk) := by
  refine ⟨rfl, fun key same => ?_⟩
  cases same
  exact apart

theorem readsApart_scanPrefix (family : List Char) (lead : String) :
    ReadsApart family (.scanPrefix lead) := ⟨rfl, nofun⟩

/-- The checks of a request do not look at the proposal. -/
theorem requireUpdate_readsApart (session : Option Session) (strategyId : String) :
    (Dashboard.requireUpdate deploy libraries session strategyId).All TableOp.apply
      (ReadsApart "STRATEGYPROPOSAL".toList) := by
  have principal : (Dashboard.getPrincipal session).All TableOp.apply
      (ReadsApart "STRATEGYPROPOSAL".toList) := by
    cases session with
    | none => trivial
    | some session =>
        refine Program.All.tryCatch ?_ fun error => by cases error <;> trivial
        unfold Dashboard.principalFromSession
        dsimp only
        split
        · trivial
        refine Program.All.bind (Program.All.tryCatch ?_ fun error => by cases error <;> trivial)
          fun _ => ?_
        · refine Program.All.bind (Program.All.perform (readsApart_getItem ?_)) fun stored => by
            cases stored <;> trivial
          rw [TenancyStore.familyOf_userPk]
          decide
        refine Program.All.bind (Program.All.bind (Program.All.perform
          (readsApart_scanPrefix _ _)) fun _ => trivial) fun _ => ?_
        refine Program.All.bind (Program.All.bind (Program.All.perform (readsApart_getItem ?_))
          fun _ => trivial) fun _ => trivial
        rw [TenancyStore.familyOf_sysadminPk]
        decide
  refine Program.All.bind principal fun _ => ?_
  refine Program.All.bind (Program.All.tryCatch ?_ fun error => by cases error <;> trivial)
    fun strategy => ?_
  · refine Program.All.bind (Program.All.perform (readsApart_getItem ?_)) fun stored => by
      cases stored <;> trivial
    rw [StrategyStore.familyOf_strategyPk]
    decide
  refine Program.All.bind (Program.All.bind (Program.All.perform (readsApart_scanPrefix _ _))
    fun _ => Program.All.bind trivial fun _ => trivial) fun _ => ?_
  refine Program.All.bind ?_ fun _ => trivial
  unfold Dashboard.require
  split <;> trivial

/-- The stage an apply request is at once it has the proposal. -/
def stageOf (libraries : Libraries) (target : ProposalRef) (now : Int) (status : ProposalStatus) :
    Stage :=
  if status = .pending ∧ libraries.accepts (markdownAttrs target now) = true then .holding
  else .ended

/-- Where a scan is legal and changes nothing, the key that is found is the one of
the proposal. -/
theorem findPk_keeps {request : DecisionRequest} {stage : Stage}
    (legal : ∀ table, Legal target request stage (scanOp target) table)
    (stays : ∀ table, move libraries target request stage (scanOp target) table = stage) :
    Keeps libraries target request (fun outcome last => outcome = .ok target.pk ∧ last = stage)
      (StrategyProposalsStore.findPk target.strategyId target.proposalId) stage := by
  refine Program.Follows.perform_bind fun table underway => ⟨legal table, ?_⟩
  obtain ⟨row, rest, proposal, rows, -⟩ := underway.proposal
  unfold StrategyProposalsStore.matching at rows
  have kept := stays table
  unfold scanOp at kept
  dsimp only [TableOp.apply]
  rw [rows, kept]
  exact ⟨rfl, rfl⟩

theorem move_getItem (session : Option Session) (now : Int) (table : Table) :
    move libraries target (.apply session now) .reading (.getItem target.pk) table =
      if HasStatus target table .pending ∧ libraries.accepts (markdownAttrs target now) = true
        then .holding else .ended :=
  if_pos rfl

/-- What an apply request has read. -/
def Holds (libraries : Libraries) (target : ProposalRef) (now : Int)
    (outcome : Except CallError StrategyProposal) (stage : Stage) : Prop :=
  ∃ proposal, outcome = .ok proposal ∧ proposal.proposedMarkdown = target.text ∧
    stage = stageOf libraries target now proposal.status

/-- An apply request reads the proposal the table has. -/
theorem get_keeps (session : Option Session) (now : Int) (detail : String) :
    Keeps libraries target (.apply session now) (Holds libraries target now)
      (orNotFound (StrategyProposalsStore.get libraries target.strategyId target.proposalId) detail)
      .reading := by
  have found : Keeps libraries target (.apply session now) (Holds libraries target now)
      (StrategyProposalsStore.get libraries target.strategyId target.proposalId) .reading := by
    refine Program.Follows.bind (findPk_keeps (fun _ => rfl) fun _ => rfl) ?_ ?_
    · rintro pk stage ⟨same, rfl⟩
      cases same
      refine Program.Follows.perform_bind fun table underway => ⟨rfl, ?_⟩
      obtain ⟨row, rest, proposal, rows, stored, reads, text, statusOf⟩ := underway.row
      obtain ⟨status, has⟩ := underway.status
      have readsStatus := readStatus_of_attr ((statusOf status).mp has)
      rw [(StrategyProposal.attrs_of_modelValidate reads).2] at readsStatus
      cases readsStatus
      have pendingIff : HasStatus target table .pending ↔ proposal.status = .pending := by
        constructor
        · exact fun pending => has.unique pending
        · intro same
          rw [← same]
          exact has
      dsimp only [TableOp.apply]
      rw [stored]
      refine ⟨proposal, reads, text, ?_⟩
      rw [move_getItem]
      unfold stageOf
      simp only [pendingIff]
    · rintro error stage ⟨same, -⟩
      cases same
  refine found.tryCatch (fun _ _ ends => ends) ?_
  rintro error stage ⟨_, same, -⟩
  cases same

/-- The write of the strategy is prepared if the table takes the text. -/
theorem prepareUpdate_markdown (now : Int) :
    StrategyStore.prepareUpdate libraries [("markdown", .text target.text)] now =
      if libraries.accepts (markdownAttrs target now) = true then pure (markdownAttrs target now)
      else throw (.service "write refused") := by
  change StrategyStore.checkAccepted libraries (markdownAttrs target now) >>= _ = _
  unfold StrategyStore.checkAccepted
  split <;> rfl

/-- A request that holds the proposal writes its text and has then to decide. -/
theorem update_keeps (session : Option Session) (now : Int)
    (accepted : libraries.accepts (markdownAttrs target now) = true) :
    Keeps libraries target (.apply session now)
      (fun outcome stage => (∃ strategy, outcome = .ok strategy) ∧ stage = .deciding)
      (StrategyStore.update libraries target.strategyId [("markdown", .text target.text)] now)
      .holding := by
  unfold StrategyStore.update
  rw [prepareUpdate_markdown, if_pos accepted]
  refine Program.Follows.perform_bind fun table underway => ⟨rfl, ?_⟩
  obtain ⟨item, stored, conforms⟩ := underway.strategy
  have conformsAfter : (Strategy.schema libraries).Conforms
      (item.update (markdownAttrs target now)) := conforms_markdown conforms now
  obtain ⟨strategy, reads⟩ := Strategy.modelValidate_isOk_iff.mpr conformsAfter
  dsimp only [TableOp.apply]
  rw [stored]
  exact ⟨⟨strategy, reads⟩, rfl⟩

theorem decide_keeps {request : DecisionRequest} {stage : Stage} {status : ProposalStatus}
    (decides : status ≠ .pending)
    (scans : ∀ table, Legal target request stage (scanOp target) table)
    (stays : ∀ table, move libraries target request stage (scanOp target) table = stage)
    {decidedBy : UserId} {now : Int}
    (writes : ∀ table, Legal target request stage (decideOp target status decidedBy now) table)
    (ends : ∀ table,
      Ends (move libraries target request stage (decideOp target status decidedBy now) table)) :
    Keeps libraries target request (fun _ => Ends)
      (StrategyProposalsStore.decide libraries target.strategyId target.proposalId status decidedBy
        now) stage := by
  unfold StrategyProposalsStore.decide
  rw [if_neg decides]
  refine Program.Follows.bind (findPk_keeps scans stays) ?_ ?_
  · rintro pk last ⟨same, rfl⟩
    cases same
    refine Program.Follows.perform_bind fun table underway => ⟨writes table, ?_⟩
    -- Whatever the write answers, nothing is left to do.
    split
    · exact ends table
    · exact ends table
  · rintro error last ⟨same, -⟩
    cases same

theorem requireUpdate_keeps_apply (session : Option Session) (now : Int) :
    Keeps libraries target (.apply session now) (fun _ stage => stage = .reading)
      (Dashboard.requireUpdate deploy libraries session target.strategyId) .reading := by
  refine Program.All.follows (requireUpdate_readsApart session _) (fun op table apart _ => apart.1)
    ?_ fun _ => rfl
  intro op table apart underway
  cases op with
  | getItem pk =>
      have different : pk ≠ target.pk := by
        rintro rfl
        exact apart.2 target.pk rfl underway.familyOf_pk
      exact if_neg different
  | _ => rfl

theorem reads_keeps_reject {α : Type} {program : TableProgram α} (reads : ReadsOnly program)
    (session : Option Session) (now : Int) :
    Keeps libraries target (.reject session now) (fun _ stage => stage = .rejecting) program
      .rejecting := by
  refine Program.All.follows reads ?_ (fun op table _ _ => ?_) fun _ => rfl
  · exact fun op table within _ => Or.inl (TableOp.target?_of_writesIn_nil within)
  · cases op <;> rfl

theorem program_keeps (request : DecisionRequest) :
    Keeps libraries target request (fun _ => Ends)
      (request.program deploy libraries target) (firstStage request) := by
  have ends_ended : Ends .ended := ⟨nofun, nofun⟩
  have ends_rejecting : Ends .rejecting := ⟨nofun, nofun⟩
  cases request with
  | apply session now =>
      refine Program.Follows.bind (requireUpdate_keeps_apply session now) ?_ ?_
      · rintro principal stage rfl
        refine Program.Follows.bind (get_keeps session now _) ?_ ?_
        · rintro proposal stage ⟨_, same, text, rfl⟩
          cases same
          dsimp only
          split
          next decided =>
            have stage : stageOf libraries target now proposal.status = .ended :=
              if_neg fun both => decided both.1
            rw [stage]
            exact ends_ended
          next pending =>
            rw [not_not] at pending
            rw [text]
            by_cases accepted : libraries.accepts (markdownAttrs target now) = true
            · have stage : stageOf libraries target now proposal.status = .holding :=
                if_pos ⟨pending, accepted⟩
              rw [stage]
              refine Program.Follows.bind (update_keeps session now accepted) ?_ ?_
              · rintro strategy stage ⟨-, rfl⟩
                refine decide_keeps (by decide) ?_ ?_ ?_ ?_
                · exact fun _ => Or.inl rfl
                · exact fun _ => rfl
                · exact fun _ => Or.inr ⟨principal.userId, rfl⟩
                · exact fun _ => ends_ended
              · rintro error stage ⟨⟨_, same⟩, -⟩
                cases same
            · have stage : stageOf libraries target now proposal.status = .ended :=
                if_neg fun both => accepted both.2
              rw [stage]
              unfold StrategyStore.update
              rw [prepareUpdate_markdown, if_neg accepted]
              exact ends_ended
        · rintro error stage ⟨_, same, -⟩
          cases same
      · rintro error stage rfl
        exact ⟨nofun, nofun⟩
  | reject session now =>
      refine Program.Follows.bind (reads_keeps_reject (Dashboard.requireUpdate_reads deploy libraries
        session target.strategyId) session now) ?_ ?_
      · rintro principal stage rfl
        have found := (StrategyProposalsStore.get_reads libraries target.strategyId
          target.proposalId).orNotFound "Proposal not found"
        refine Program.Follows.bind (reads_keeps_reject found session now) ?_ ?_
        · rintro proposal stage rfl
          dsimp only
          split
          · exact ends_rejecting
          · refine decide_keeps (by decide) ?_ ?_ ?_ ?_
            · exact fun _ => Or.inl rfl
            · exact fun _ => rfl
            · exact fun _ => Or.inr ⟨principal.userId, rfl⟩
            · exact fun _ => ends_rejecting
        · rintro error stage rfl
          exact ends_rejecting
      · rintro error stage rfl
        exact ends_rejecting

end Follows

/-! ### Which stages go with which statuses -/

/-- What the stages of all requests, the status of the proposal and the past say
of each other. -/
structure Consistent (has : ProposalStatus → Prop) (stages : List Stage) (read replaced late : Prop) :
    Prop where
  unique : ∀ left right, has left → has right → left = right
  read_of_holding : .holding ∈ stages → read
  read_of_replaced : replaced → read
  replaced_of_deciding : .deciding ∈ stages → replaced
  onward : read → replaced ∨ .holding ∈ stages
  undecided : replaced → has .pending → .deciding ∈ stages
  applied : has .applied → replaced
  late_iff : late ↔ has .rejected ∧ read

section Consistency

variable {has : ProposalStatus → Prop} {stages : List Stage} {read replaced late : Prop}
  {index : Nat} {stage : Stage}

theorem mem_set_of_ne {old new : Stage} (at_ : stages[index]? = some old) (member : stage ∈ stages)
    (different : stage ≠ old) : stage ∈ stages.set index new := by
  obtain ⟨position, found⟩ := List.mem_iff_getElem?.mp member
  refine List.mem_iff_getElem?.mpr ⟨position, ?_⟩
  have apart : index ≠ position := by
    rintro rfl
    exact different (Option.some.inj (found.symm.trans at_))
  rw [List.getElem?_set_ne apart, found]

/-- A request that neither holds nor decides moves to a stage that does not either. -/
theorem Consistent.pass (consistent : Consistent has stages read replaced late) {old new : Stage}
    (at_ : stages[index]? = some old) (before : Ends old) (after : Ends new) :
    Consistent has (stages.set index new) read replaced late := by
  have back : ∀ {stage}, ¬ Ends stage → stage ∈ stages.set index new → stage ∈ stages := by
    intro stage inside member
    rcases List.mem_or_eq_of_mem_set member with old | rfl
    · exact old
    · exact absurd after inside
  have holding : ¬ Ends .holding := fun ends => ends.1 rfl
  have deciding : ¬ Ends .deciding := fun ends => ends.2 rfl
  constructor
  · exact consistent.unique
  · exact fun member => consistent.read_of_holding (back holding member)
  · exact consistent.read_of_replaced
  · exact fun member => consistent.replaced_of_deciding (back deciding member)
  · intro reads
    rcases consistent.onward reads with done | member
    · exact .inl done
    · exact .inr (mem_set_of_ne at_ member before.1.symm)
  · intro done pending
    exact mem_set_of_ne at_ (consistent.undecided done pending) before.2.symm
  · exact consistent.applied
  · exact consistent.late_iff

theorem Consistent.start (consistent : Consistent has stages read replaced late) {first : Stage}
    (outside : Ends first) : Consistent has (stages ++ [first]) read replaced late := by
  have back : ∀ {stage}, ¬ Ends stage → stage ∈ stages ++ [first] → stage ∈ stages := by
    intro stage inside member
    rcases List.mem_append.mp member with old | new
    · exact old
    · obtain rfl := List.mem_singleton.mp new
      exact absurd outside inside
  constructor
  · exact consistent.unique
  · exact fun member => consistent.read_of_holding (back (fun ends => ends.1 rfl) member)
  · exact consistent.read_of_replaced
  · exact fun member => consistent.replaced_of_deciding (back (fun ends => ends.2 rfl) member)
  · exact fun reads => (consistent.onward reads).imp_right (List.mem_append_left _)
  · exact fun done pending => List.mem_append_left _ (consistent.undecided done pending)
  · exact consistent.applied
  · exact consistent.late_iff

/-- An apply request reads the pending proposal. -/
theorem Consistent.hold (consistent : Consistent has stages read replaced late)
    (pending : has .pending) (at_ : stages[index]? = some .reading) :
    Consistent has (stages.set index .holding) True replaced late := by
  constructor
  · exact consistent.unique
  · exact fun _ => trivial
  · exact fun _ => trivial
  · intro member
    rcases List.mem_or_eq_of_mem_set member with old | same
    · exact consistent.replaced_of_deciding old
    · cases same
  · obtain ⟨inside, -⟩ := List.getElem?_eq_some_iff.mp at_
    exact fun _ => .inr (List.mem_set inside _)
  · exact fun done pending => mem_set_of_ne at_ (consistent.undecided done pending) nofun
  · exact consistent.applied
  · constructor
    · exact fun isLate => ⟨(consistent.late_iff.mp isLate).1, trivial⟩
    · exact fun both => nomatch consistent.unique _ _ pending both.1

/-- A request that holds the proposal writes its text. -/
theorem Consistent.replace (consistent : Consistent has stages read replaced late)
    (at_ : stages[index]? = some .holding) :
    Consistent has (stages.set index .deciding) read True late := by
  obtain ⟨inside, here⟩ := List.getElem?_eq_some_iff.mp at_
  have reads : read := consistent.read_of_holding (here ▸ List.getElem_mem inside)
  constructor
  · exact consistent.unique
  · exact fun _ => reads
  · exact fun _ => reads
  · exact fun _ => trivial
  · exact fun _ => .inl trivial
  · exact fun _ _ => List.mem_set inside _
  · exact fun _ => trivial
  · exact consistent.late_iff

/-- A request that has written the text comes to its end. -/
theorem Consistent.finish {next : ProposalStatus → Prop}
    (consistent : Consistent has stages read replaced late)
    (at_ : stages[index]? = some .deciding) (unique : ∀ left right, next left → next right → left = right)
    (decided : ¬ next .pending) (rejected : next .rejected ↔ has .rejected) :
    Consistent next (stages.set index .ended) read replaced late := by
  obtain ⟨inside, here⟩ := List.getElem?_eq_some_iff.mp at_
  have done : replaced := consistent.replaced_of_deciding (here ▸ List.getElem_mem inside)
  constructor
  · exact unique
  · intro member
    rcases List.mem_or_eq_of_mem_set member with old | same
    · exact consistent.read_of_holding old
    · cases same
  · exact consistent.read_of_replaced
  · exact fun _ => done
  · exact fun _ => .inl done
  · exact fun _ pending => absurd pending decided
  · exact fun _ => done
  · rw [rejected]
    exact consistent.late_iff

/-- A reject decides the pending proposal. -/
theorem Consistent.reject {next : ProposalStatus → Prop}
    (consistent : Consistent has stages read replaced late) (pending : has .pending)
    (unique : ∀ left right, next left → next right → left = right) (rejected : next .rejected) :
    Consistent next stages read replaced (late ∨ read) := by
  have early : ¬ late := by
    intro isLate
    exact nomatch consistent.unique _ _ pending (consistent.late_iff.mp isLate).1
  constructor
  · exact unique
  · exact consistent.read_of_holding
  · exact consistent.read_of_replaced
  · exact consistent.replaced_of_deciding
  · exact consistent.onward
  · exact fun _ pending => nomatch unique _ _ pending rejected
  · exact fun applied => nomatch unique _ _ applied rejected
  · constructor
    · rintro (isLate | reads)
      · exact absurd isLate early
      · exact ⟨rejected, reads⟩
    · exact fun both => .inr both.2

/-- Once all requests have ended, the text is in the strategy exactly if the
proposal is applied, unless a reject came late. -/
theorem Consistent.ended (consistent : Consistent has stages read replaced late)
    (some_ : ∃ status, has status) (ended : ∀ stage ∈ stages, Ends stage) :
    (replaced ↔ has .applied) ↔ ¬ late := by
  have noHolding : .holding ∉ stages := fun member => (ended _ member).1 rfl
  have noDeciding : .deciding ∉ stages := fun member => (ended _ member).2 rfl
  constructor
  · intro linked isLate
    obtain ⟨rejected, reads⟩ := consistent.late_iff.mp isLate
    have done := (consistent.onward reads).resolve_right noHolding
    exact nomatch consistent.unique _ _ rejected (linked.mp done)
  · intro early
    refine ⟨fun done => ?_, consistent.applied⟩
    obtain ⟨status, has⟩ := some_
    cases status with
    | pending => exact absurd (consistent.undecided done has) noDeciding
    | applied => exact has
    | rejected =>
        exact absurd (consistent.late_iff.mpr ⟨has, consistent.read_of_replaced done⟩) early

end Consistency

/-! ### Whole runs -/

section Whole

variable {deploy : Deploy} {libraries : Libraries} {target : ProposalRef}

variable {pool : DecisionPool} {stages : List Stage} {read replaced late : Prop}
  {event : DecisionEvent} {op : TableOp} {session : Option Session} {now : Int} {index : Nat}

/-- An operation of a request keeps the table, the stages and the past together. -/
def StepKeeps (libraries : Libraries) (target : ProposalRef) (pool : DecisionPool)
    (stages : List Stage) (read replaced late : Prop) (event : DecisionEvent)
    (request : DecisionRequest) (op : TableOp) (index : Nat) (stage : Stage) : Prop :=
  Underway libraries target (op.apply pool.state).2 ∧
    Consistent (HasStatus target (op.apply pool.state).2)
      (stages.set index (move libraries target request stage op pool.state))
      (read ∨ ReadsToApply libraries target pool event)
      (replaced ∨ ReplacesMarkdown target pool event)
      (late ∨ read ∧ Records target .rejected pool event)

theorem stepKeeps_reading (underway : Underway libraries target pool.state)
    (consistent : Consistent (HasStatus target pool.state) stages read replaced late)
    (performs : pool.next? event = some (.apply session now, op, none))
    (at_ : stages[index]? = some .reading)
    (legal : Legal target (.apply session now) .reading op pool.state) :
    StepKeeps libraries target pool stages read replaced late event (.apply session now) op index
      .reading := by
  have ends_reading : Ends .reading := ⟨nofun, nofun⟩
  have ends_ended : Ends .ended := ⟨nofun, nofun⟩
  unfold StepKeeps ReadsToApply ReplacesMarkdown Records
  rw [performs, TableOp.apply_of_no_target legal]
  refine ⟨underway, ?_⟩
  cases op with
  | getItem pk =>
      by_cases own : pk = target.pk
      · subst own
        rw [move_getItem]
        by_cases holds : HasStatus target pool.state .pending ∧
            libraries.accepts (markdownAttrs target now) = true
        · simpa [holds] using consistent.hold holds.1 at_
        · simpa [holds] using consistent.pass at_ ends_reading ends_ended
      · have stays : move libraries target (.apply session now) .reading (.getItem pk)
            pool.state = .reading := if_neg own
        rw [stays]
        simpa [own] using consistent.pass at_ ends_reading ends_reading
  | scanPrefix lead => simpa [move] using consistent.pass at_ ends_reading ends_reading
  | _ => cases legal

theorem stepKeeps_holding (underway : Underway libraries target pool.state)
    (consistent : Consistent (HasStatus target pool.state) stages read replaced late)
    (performs : pool.next? event = some (.apply session now, op, none))
    (at_ : stages[index]? = some .holding)
    (legal : Legal target (.apply session now) .holding op pool.state) :
    StepKeeps libraries target pool stages read replaced late event (.apply session now) op index
      .holding := by
  unfold StepKeeps ReadsToApply ReplacesMarkdown Records
  rw [performs]
  cases (legal : op = replaceOp target now)
  obtain ⟨underwayAfter, kept⟩ := underway.replace now
  refine ⟨underwayAfter, ?_⟩
  have same : HasStatus target ((replaceOp target now).apply pool.state).2 =
      HasStatus target pool.state :=
    funext fun status => propext (hasStatus_congr kept status)
  obtain ⟨item, stored, -⟩ := underway.strategy
  have shows : Item.attr? (markdownAttrs target now) "markdown" =
      some (.text target.text) := rfl
  rw [same]
  simpa [move, replaceOp, stored, shows] using consistent.replace at_

theorem stepKeeps_deciding (underway : Underway libraries target pool.state)
    (consistent : Consistent (HasStatus target pool.state) stages read replaced late)
    (performs : pool.next? event = some (.apply session now, op, none))
    (at_ : stages[index]? = some .deciding)
    (legal : Legal target (.apply session now) .deciding op pool.state) :
    StepKeeps libraries target pool stages read replaced late event (.apply session now) op index
      .deciding := by
  unfold StepKeeps ReadsToApply ReplacesMarkdown Records
  rw [performs]
  rcases legal with rfl | ⟨decidedBy, rfl⟩
  · obtain ⟨inside, here⟩ := List.getElem?_eq_some_iff.mp at_
    have stays : stages.set index .deciding = stages := by
      rw [← here, List.set_getElem_self]
    refine ⟨underway, ?_⟩
    simpa [move, scanOp, stays, TableOp.apply] using consistent
  · have other : Item.attr? (decisionFields .applied decidedBy now) "status" ≠
        some (.text ProposalStatus.rejected.value) := by
      simp [decisionFields, Item.attr?, ProposalStatus.value]
    have moved : move libraries target (.apply session now) .deciding
        (decideOp target .applied decidedBy now) pool.state = .ended := rfl
    rw [moved]
    by_cases pending : HasStatus target pool.state .pending
    · obtain ⟨underwayAfter, applied⟩ := underway.decide pending .applied decidedBy now
      refine ⟨underwayAfter, ?_⟩
      have finished := consistent.finish at_ (fun _ _ => HasStatus.unique)
        (applied.not_of_ne (by decide))
        (iff_of_false (applied.not_of_ne (by decide)) (pending.not_of_ne (by decide)))
      simpa [decideOp, other] using finished
    · rw [apply_decideOp_of_not_pending pending]
      refine ⟨underway, ?_⟩
      have finished := consistent.finish at_ (fun _ _ => HasStatus.unique) pending Iff.rfl
      simpa [decideOp, other] using finished

theorem stepKeeps_rejecting (underway : Underway libraries target pool.state)
    (consistent : Consistent (HasStatus target pool.state) stages read replaced late)
    (performs : pool.next? event = some (.reject session now, op, none))
    (at_ : stages[index]? = some .rejecting)
    (legal : Legal target (.reject session now) .rejecting op pool.state) :
    StepKeeps libraries target pool stages read replaced late event (.reject session now) op index
      .rejecting := by
  have ends_rejecting : Ends .rejecting := ⟨nofun, nofun⟩
  have passed := consistent.pass at_ ends_rejecting ends_rejecting
  unfold StepKeeps ReadsToApply ReplacesMarkdown Records
  rw [performs]
  rcases legal with reads | ⟨decidedBy, rfl⟩
  · rw [TableOp.apply_of_no_target reads]
    refine ⟨underway, ?_⟩
    cases op with
    | getItem pk => simpa [move] using passed
    | scanPrefix lead => simpa [move] using passed
    | _ => cases reads
  · have here : Item.attr? (decisionFields .rejected decidedBy now) "status" =
        some (.text ProposalStatus.rejected.value) := rfl
    have moved : move libraries target (.reject session now) .rejecting
        (decideOp target .rejected decidedBy now) pool.state = .rejecting := rfl
    rw [moved]
    by_cases pending : HasStatus target pool.state .pending
    · obtain ⟨underwayAfter, rejected⟩ := underway.decide pending .rejected decidedBy now
      refine ⟨underwayAfter, ?_⟩
      have decided := passed.reject pending (fun _ _ => HasStatus.unique) rejected
      simpa [decideOp, here, pending] using decided
    · rw [apply_decideOp_of_not_pending pending]
      refine ⟨underway, ?_⟩
      simpa [decideOp, pending] using passed

/-- What a legal operation does to the table, the stages and the past. -/
theorem consistent_step (underway : Underway libraries target pool.state)
    (consistent : Consistent (HasStatus target pool.state) stages read replaced late)
    {request : DecisionRequest} (performs : pool.next? event = some (request, op, none))
    {stage : Stage} (at_ : stages[index]? = some stage)
    (legal : Legal target request stage op pool.state) :
    StepKeeps libraries target pool stages read replaced late event request op index stage := by
  cases request with
  | apply session now =>
      cases stage with
      | reading => exact stepKeeps_reading underway consistent performs at_ legal
      | holding => exact stepKeeps_holding underway consistent performs at_ legal
      | deciding => exact stepKeeps_deciding underway consistent performs at_ legal
      | ended => exact legal.elim
      | rejecting => exact legal.elim
  | reject session now =>
      cases stage with
      | rejecting => exact stepKeeps_rejecting underway consistent performs at_ legal
      | reading => exact legal.elim
      | holding => exact legal.elim
      | deciding => exact legal.elim
      | ended => exact legal.elim

/-- An event that performs no operation is none of the steps that are watched. -/
theorem quiet_of_next?_none (libraries : Libraries) (target : ProposalRef) {pool : DecisionPool}
    {event : DecisionEvent} (idle : pool.next? event = none) :
    ¬ ReadsToApply libraries target pool event ∧ ¬ ReplacesMarkdown target pool event ∧
      ¬ Records target .rejected pool event := by
  unfold ReadsToApply ReplacesMarkdown Records
  rw [idle]
  exact ⟨id, id, id⟩

/-- In an undisturbed run the requests keep to stages that account for the past. -/
theorem consistent_run (deploy : Deploy) {table : Table} (underway : Underway libraries target table)
    (pending : HasStatus target table .pending) {events : List DecisionEvent}
    (undisturbed : ∀ event ∈ events, ∀ index error, event ≠ .advance index (some error)) :
    ∃ stages,
      Underway libraries target (run (step deploy libraries target) ⟨table, []⟩ events).state ∧
      (run (step deploy libraries target) ⟨table, []⟩ events).Staged TableOp.apply
        (Underway libraries target) (Legal target) (move libraries target) Ends stages ∧
      Consistent (HasStatus target (run (step deploy libraries target) ⟨table, []⟩ events).state)
        stages
        (SomeStep (step deploy libraries target) (ReadsToApply libraries target) ⟨table, []⟩ events)
        (SomeStep (step deploy libraries target) (ReplacesMarkdown target) ⟨table, []⟩ events)
        (Precedes (step deploy libraries target) (ReadsToApply libraries target)
          (Records target .rejected) ⟨table, []⟩ events) := by
  induction events using List.reverseRecOn with
  | nil =>
      refine ⟨[], underway, List.Forall₂.nil, ?_⟩
      constructor
      · exact fun _ _ => HasStatus.unique
      · exact fun member => nomatch member
      · exact False.elim
      · exact fun member => nomatch member
      · exact False.elim
      · exact fun done => done.elim
      · exact fun applied => absurd applied (pending.not_of_ne nofun)
      · exact ⟨False.elim, fun both => both.2⟩
  | append_singleton rest event inductionHypothesis =>
      obtain ⟨stages, underwayThere, staged, consistent⟩ := inductionHypothesis
        fun event member => undisturbed event (List.mem_append_left _ member)
      rw [run_concat, someStep_concat, someStep_concat, precedes_concat]
      generalize run (step deploy libraries target) ⟨table, []⟩ rest = pool at *
      cases event with
      | start request =>
          have idle : pool.next? (.start request) = none := rfl
          have sameState : (step deploy libraries target pool (.start request)).state =
              pool.state := rfl
          obtain ⟨noRead, noWrite, noRecord⟩ := quiet_of_next?_none libraries target idle
          refine ⟨stages ++ [firstStage request], underwayThere,
            staged.start (program_keeps request), ?_⟩
          have outside : Ends (firstStage request) := by
            cases request <;> exact ⟨nofun, nofun⟩
          rw [sameState]
          simpa [noRead, noWrite, noRecord] using consistent.start outside
      | advance index raised =>
          cases raised with
          | some error => exact absurd rfl (undisturbed _ (by simp) index error)
          | none =>
              cases performs : pool.next? (.advance index none) with
              | none =>
                  obtain ⟨noRead, noWrite, noRecord⟩ := quiet_of_next?_none libraries target performs
                  rw [step, Pool.step_of_next?_none performs]
                  refine ⟨stages, underwayThere, staged, ?_⟩
                  simpa [noRead, noWrite, noRecord] using consistent
              | some performed =>
                  obtain ⟨request, op, shown⟩ := performed
                  obtain rfl := Pool.raised_of_next? performs
                  obtain ⟨stage, at_, legal, stagedAfter⟩ := staged.advance underwayThere performs
                  obtain ⟨underwayAfter, consistentAfter⟩ :=
                    consistent_step underwayThere consistent performs at_ legal
                  refine ⟨_, ?_, stagedAfter, ?_⟩
                  · rw [step, Pool.state_step, performs]
                    exact underwayAfter
                  · rw [step, Pool.state_step, performs]
                    exact consistentAfter

/-- The interleaved requests come to one decision exactly if no reject decides
after an apply has read the proposal. -/
theorem oneDecision_iff_noLateReject {table : Table} (underway : Underway libraries target table)
    (pending : HasStatus target table .pending) (events : List DecisionEvent) :
    OneDecision deploy libraries target ⟨table, []⟩ events ↔
      (Complete deploy libraries target ⟨table, []⟩ events →
        NoLateReject deploy libraries target ⟨table, []⟩ events) := by
  have nothing : Issued target ⟨table, []⟩ := nofun
  have linked_iff (complete : Complete deploy libraries target ⟨table, []⟩ events) :
      (SomeStep (step deploy libraries target) (ReplacesMarkdown target) ⟨table, []⟩ events ↔
        HasStatus target (run (step deploy libraries target) ⟨table, []⟩ events).state .applied) ↔
      NoLateReject deploy libraries target ⟨table, []⟩ events := by
    obtain ⟨stages, underwayThere, staged, consistent⟩ :=
      consistent_run deploy underway pending complete.undisturbed
    exact consistent.ended underwayThere.status (staged.ended complete.ended)
  constructor
  · exact fun one complete => (linked_iff complete).mp (one.linked complete)
  · intro early
    refine ⟨recorded_once deploy libraries underway.familyOf_pk nothing events, ?_, ?_⟩
    · rintro before later rfl status decided has
      rw [run_append]
      exact getItem_run_of_decided deploy libraries underway.familyOf_pk decided
        (nothing.run before) has later
    · exact fun complete => (linked_iff complete).mpr (early complete)

end Whole

section Desk

/-- A proposal for a strategy. -/
def buyLess : ProposalRef := ⟨"s", "p", "STRATEGYPROPOSAL#s#2#p", "# Buy less"⟩

def buyLessRow : Item :=
  [("proposal_id", .text "p"), ("strategy_id", .text "s"), ("org_id", .text "acme"),
    ("proposer_agent", .text "self_critique"), ("proposer_agent_id", .text "bot"),
    ("created_at", .number 2), ("rationale", .text "drawdown"),
    ("proposed_markdown", .text "# Buy less"), ("status", .text "pending"),
    ("decided_by", .text ""), ("decided_at", .number 0)]

def momentum : Strategy :=
  { strategyId := "s", orgId := "acme", authorUserId := "user", name := "Momentum"
    markdown := "# Buy", createdAt := 1, updatedAt := 1 }

/-- An author with a strategy and a proposal for it. -/
def desk : Table := Dict.empty.setAll
  [(TenancyStore.userPk "user",
      User.modelDump { userId := "user", email := "u@acme", createdAt := 0, updatedAt := 0 }),
    (TenancyStore.userOrgPk "user" "acme", TenancyStore.membershipItem "user" "acme" .operator 0),
    (StrategyStore.strategyPk "s", momentum.modelDump), (buyLess.pk, buyLessRow)]

theorem underway_desk : Underway StrategyStore.plainLibraries buyLess desk := by
  have stored : desk.getItem (StrategyStore.strategyPk "s") = some momentum.modelDump := by
    decide +kernel
  refine ⟨⟨_, stored, Strategy.conforms_modelDump momentum⟩, ⟨buyLessRow, [], ?_⟩, .pending, ?_⟩
  · exact ⟨⟨"p", "s", "acme", "self_critique", "bot", 2, "drawdown", "# Buy less", .pending, "", 0⟩,
      by decide +kernel, by rfl, rfl⟩
  · decide +kernel

/-- An apply and a reject request, and the order in which their operations run. -/
def bothRequests (order : List Nat) : List DecisionEvent :=
  [.start (.apply (some ⟨"user"⟩) 5), .start (.reject (some ⟨"user"⟩) 6)] ++
    order.map fun index => .advance index none

theorem bothRequests_undisturbed (order : List Nat) :
    ∀ event ∈ bothRequests order, ∀ index error, event ≠ .advance index (some error) := by
  intro event member index error same
  subst same
  simp [bothRequests] at member

/-- The apply request first, then the reject. -/
theorem oneDecision_iff_noLateReject_desk :
    OneDecision { normalize := id } StrategyStore.plainLibraries buyLess ⟨desk, []⟩
        (bothRequests (List.replicate 10 0 ++ List.replicate 10 1)) ↔
      (Complete { normalize := id } StrategyStore.plainLibraries buyLess ⟨desk, []⟩
          (bothRequests (List.replicate 10 0 ++ List.replicate 10 1)) →
        NoLateReject { normalize := id } StrategyStore.plainLibraries buyLess ⟨desk, []⟩
          (bothRequests (List.replicate 10 0 ++ List.replicate 10 1))) :=
  oneDecision_iff_noLateReject underway_desk (by decide +kernel) _

/-- The reject decides between the two writes of the apply: the proposal is
rejected, and its text is in the strategy. -/
theorem not_oneDecision_late_reject :
    ¬ OneDecision { normalize := id } StrategyStore.plainLibraries buyLess ⟨desk, []⟩
      (bothRequests (List.replicate 8 0 ++ List.replicate 9 1 ++ List.replicate 2 0)) := by
  intro one
  have linked := one.linked ⟨bothRequests_undisturbed _, by decide +kernel⟩
  revert linked
  decide +kernel

end Desk

end ProposalDecisions

end TradingStrands
