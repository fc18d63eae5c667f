import TradingStrands.AuditorAgent.Runner
import TradingStrands.Halt.Store
import TradingStrands.LedgerStore.Store
import TradingStrands.StrategiesStore.Store

/-!
Owns the entry point of the auditor agent: it loads the ledgers of the
organisation's active strategies, asks the broker for its positions and reviews
the two. The broker account holds the positions of every strategy, so the check
of a book that agrees passes exactly where the ledgers it does not load net to
nothing.

The broker's answer, the services of the review and the clock are inputs. The
heartbeat the handler leaves, the memory's bucket and the environment are left out.
-/

namespace TradingStrands.AuditorAgent

open TradingStrands.Foundation TableProgram

/-- What ends the handler: the table's error or a ledger that cannot be read. -/
inductive HandlerError
  | table (error : CallError)
  | ledger (error : PyError)
deriving DecidableEq

structure HandlerEnv where
  date : String := ""
  /-- The text of a quantity. -/
  str : Decimal → String := fun _ => ""
  /-- What reading the credentials and asking the broker comes to. -/
  brokerPositions : Except PyError (List BrokerPosition)
  stamp : HaltStore.Stamp := {}
  services : Replies AuditOp AuditOp.Answer PyError

inductive HandlerResponse
  | missingOrg
  | brokerFetch (orgId : OrgId) (error : PyError)
  | reviewed (ok : Bool) (report : AuditReviewReport)
deriving DecidableEq

def botIdOf (strategy : Strategy) : BotId := "strategy-" ++ strategy.strategyId

def active (strategies : List Strategy) : List Strategy :=
  strategies.filter fun strategy => strategy.status = .active

/-- Load the snapshots one after the other; bots without one are left out. -/
def loadSnapshots (table : Table) :
    List Strategy → Dict BotId Ledger → Except PyError (Dict BotId Ledger)
  | [], out => .ok out
  | strategy :: rest, out =>
      match LedgerStore.loadSnapshot table (botIdOf strategy) with
      | .error error => .error error
      | .ok none => loadSnapshots table rest out
      | .ok (some ledger) => loadSnapshots table rest (out.set (botIdOf strategy) ledger)

def loadOrgLedgers (libraries : Libraries) (table : Table) (orgId : OrgId) :
    Except HandlerError (Dict BotId Ledger) :=
  match (runAlone (StrategyStore.listForOrg libraries orgId) table).1 with
  | .error error => .error (.table error)
  | .ok strategies =>
      match loadSnapshots table (active strategies) Dict.empty with
      | .error error => .error (.ledger error)
      | .ok ledgers => .ok ledgers

/-- A halt call that is answered has written the organisation's flag. -/
def attempt (env : HandlerEnv) (orgId : OrgId) (op : AuditOp) (state : Table × List AuditOp) :
    Except PyError (AuditOp.Answer op) × (Table × List AuditOp) :=
  match env.services state.2 op with
  | .error error => (.error error, state.1, state.2 ++ [op])
  | .ok answer =>
      (.ok answer,
        match op with
        | .setHalted halted reason => HaltStore.setOrgHalt state.1 env.stamp orgId halted reason
        | _ => state.1,
        state.2 ++ [op])

def reviewOf (env : HandlerEnv) (orgId : OrgId) (ledgers : Dict BotId Ledger)
    (positions : List BrokerPosition) : Review :=
  { orgId, date := env.date, ledgers, brokerPositions := positions }

/-- The response, or what the handler raises, and the table afterwards. -/
def handler (libraries : Libraries) (env : HandlerEnv) (table : Table) (orgId : OrgId) :
    Except HandlerError HandlerResponse × Table :=
  if orgId = "" then (.ok .missingOrg, table)
  else
    match loadOrgLedgers libraries table orgId with
    | .error error => (.error error, table)
    | .ok ledgers =>
        match env.brokerPositions with
        | .error error => (.ok (.brokerFetch orgId error), table)
        | .ok positions =>
            let review := reviewOf env orgId ledgers positions
            match (runAuditReview env.str review).runAttempts (attempt env orgId) (table, []) with
            | (.error error, after) => (.error (.ledger error), after.1)
            | (.ok report, after) =>
                (.ok (.reviewed (report.errors = [] ∧ report.checkStatus = "pass") report),
                  after.1)

/-! ### The book of an organisation -/

def botIds (strategies : List Strategy) : List BotId := (strategies.map botIdOf).dedup

/-- The positions a bot's snapshot holds. -/
def persistedPostings (table : Table) (botId : BotId) : List (Symbol × Decimal) :=
  match LedgerStore.loadSnapshot table botId with
  | .ok (some ledger) => ledger.openPositions.map Position.posting
  | _ => []

/-- The positions of some bots. -/
def bookOf (table : Table) (bots : List BotId) : List (Symbol × Decimal) :=
  bots.flatMap (persistedPostings table)

/-- The bots whose strategies are all paused or stopped. -/
def unseenBots (strategies : List Strategy) : List BotId :=
  (botIds strategies).filter fun botId => botId ∉ botIds (active strategies)

/-- The whole book is what the auditor sees and what it does not. -/
theorem balance_bookOf_split (table : Table) (strategies : List Strategy) (symbol : Symbol) :
    balance (bookOf table (botIds strategies)) symbol =
      balance (bookOf table (botIds (active strategies))) symbol +
        balance (bookOf table (unseenBots strategies)) symbol := by
  have nodup : ∀ strategies, (botIds strategies).Nodup := fun strategies => List.nodup_dedup _
  have members : ∀ botId ∈ botIds (active strategies), botId ∈ botIds strategies := by
    intro botId member
    unfold botIds at member ⊢
    rw [List.mem_dedup] at member ⊢
    exact List.map_subset botIdOf List.filter_sublist.subset member
  have seen : ((botIds strategies).filter fun botId => botId ∈ botIds (active strategies)).Perm
      (botIds (active strategies)) := by
    rw [List.perm_ext_iff_of_nodup ((nodup strategies).filter _) (nodup _)]
    intro botId
    rw [List.mem_filter, decide_eq_true_iff]
    exact ⟨And.right, fun member => ⟨members botId member, member⟩⟩
  have split : (botIds strategies).Perm (botIds (active strategies) ++ unseenBots strategies) := by
    refine (List.filter_append_perm
      (fun botId => decide (botId ∈ botIds (active strategies))) _).symm.trans ?_
    refine seen.append ?_
    unfold unseenBots
    simp
  unfold bookOf
  rw [balance_perm (split.flatMap_right _), List.flatMap_append, balance_append]

/-- Loading keeps a bot's ledger or finds its snapshot. -/
theorem get?_loadSnapshots {table : Table} {strategies : List Strategy}
    {out ledgers : Dict BotId Ledger}
    (loaded : loadSnapshots table strategies out = .ok ledgers) (botId : BotId) :
    ledgers.get? botId =
      if botId ∈ strategies.map botIdOf then
        match LedgerStore.loadSnapshot table botId with
        | .ok (some ledger) => some ledger
        | _ => out.get? botId
      else out.get? botId := by
  induction strategies generalizing out with
  | nil =>
      rw [← Except.ok.inj loaded]
      exact (if_neg (List.not_mem_nil)).symm
  | cons strategy rest inductionHypothesis =>
      unfold loadSnapshots at loaded
      rw [List.map_cons]
      cases found : LedgerStore.loadSnapshot table (botIdOf strategy) with
      | error error => simp [found] at loaded
      | ok snapshot =>
          rw [found] at loaded
          cases snapshot with
          | none =>
              rw [inductionHypothesis loaded]
              by_cases own : botId = botIdOf strategy
              · simp [own, found]
              · simp [own]
          | some ledger =>
              rw [inductionHypothesis loaded, Dict.get?_set]
              by_cases own : botId = botIdOf strategy
              · simp [own, found]
              · simp [own]

/-- The ledgers that are loaded hold the book of the active strategies. -/
theorem balance_loadSnapshots {table : Table} {strategies : List Strategy}
    {ledgers : Dict BotId Ledger}
    (loaded : loadSnapshots table strategies Dict.empty = .ok ledgers) (symbol : Symbol) :
    balance (ledgerPostings ledgers) symbol = balance (bookOf table (botIds strategies)) symbol := by
  have lookup := get?_loadSnapshots loaded
  have covers : ∀ botId ledger, ledgers.get? botId = some ledger →
      botId ∈ (botIds strategies).toFinset := by
    intro botId ledger found
    rw [List.mem_toFinset]
    unfold botIds
    rw [List.mem_dedup]
    by_contra absent
    rw [lookup, if_neg absent] at found
    cases found
  have held : ∀ botId ∈ botIds strategies,
      ((ledgers.get? botId).map fun ledger : Ledger =>
        balance (ledger.openPositions.map Position.posting) symbol).getD 0 =
          balance (persistedPostings table botId) symbol := by
    intro botId member
    unfold botIds at member
    rw [List.mem_dedup] at member
    rw [lookup, if_pos member]
    unfold persistedPostings
    rcases LedgerStore.loadSnapshot table botId with error | snapshot
    · rfl
    · cases snapshot <;> rfl
  unfold ledgerPostings bookOf
  rw [balance_flatMap, balance_flatMap]
  refine (Dict.sumBy_eq_sum (fun ledger : Ledger =>
    balance (ledger.openPositions.map Position.posting) symbol) covers).trans ?_
  rw [List.sum_toFinset _ (show (botIds strategies).Nodup from List.nodup_dedup _)]
  exact congrArg List.sum (List.map_congr_left held)

/-! ### When the check of an agreeing book passes -/

/-- Calls without a halt leave the table as it is. -/
theorem foldl_attempt_of_quiet (env : HandlerEnv) (orgId : OrgId) {calls : List AuditOp}
    (quiet : calls.filter AuditOp.isHalt = []) (state : Table × List AuditOp) :
    (calls.foldl (fun state op => (attempt env orgId op state).2) state).1 = state.1 := by
  induction calls generalizing state with
  | nil => rfl
  | cons op rest inductionHypothesis =>
      rw [List.filter_eq_nil_iff] at quiet
      have here : op.isHalt = false := Bool.not_eq_true _ ▸ quiet op List.mem_cons_self
      have kept : (attempt env orgId op state).2.1 = state.1 := by
        unfold attempt
        cases env.services state.2 op with
        | error error => rfl
        | ok answer =>
            cases op with
            | setHalted halted reason => simp [AuditOp.isHalt] at here
            | readRecommendations | invokeLlm | appendRecommendation | storeAdvisory => rfl
      rw [List.foldl_cons, inductionHypothesis, kept]
      rw [List.filter_eq_nil_iff]
      exact fun later member => quiet later (List.mem_cons_of_mem op member)

/-- A review of sides that agree halts nothing. -/
theorem handler_of_agrees {libraries : Libraries} {env : HandlerEnv} {table : Table}
    {orgId : OrgId} {ledgers : Dict BotId Ledger} {positions : List BrokerPosition}
    (loaded : loadOrgLedgers libraries table orgId = .ok ledgers)
    (fetched : env.brokerPositions = .ok positions)
    (agrees : ¬ (reviewOf env orgId ledgers positions).Drifts) :
    (handler libraries env table orgId).2 = table := by
  obtain ⟨calls, report, ran, ⟨rest, rfl, quiet⟩, -⟩ :=
    (runAuditReview_completes env.str (reviewOf env orgId ledgers positions)).runAttempts
      (attempt env orgId) (table, [])
  have none : haltCalls env.str (reviewOf env orgId ledgers positions) = [] :=
    if_neg ((decideHalt_iff _).not.mpr agrees)
  rw [none, List.nil_append] at ran
  unfold handler
  rw [loaded, fetched]
  dsimp only
  rw [ran]
  split
  · rfl
  · exact foldl_attempt_of_quiet env orgId quiet (table, [])

/-- A strategy of the organisation `org`. -/
def strategyOf (strategyId : String) (status : StrategyStatus) : Strategy :=
  { strategyId, orgId := "org", authorUserId := "author", name := strategyId, markdown := "", status
    createdAt := 0, updatedAt := 0 }

/-- A ledger that has bought some shares. -/
def ledgerHolding (quantity : Decimal) : Ledger :=
  ((Ledger.ofCapital 1000).recordFill ⟨"AAPL", .buy, quantity, 10, {}⟩).1

/-- An active strategy that holds one share and another one that holds two. -/
def twoStrategies (status : StrategyStatus) : Table :=
  let rows : Table := (Dict.empty.set (StrategyStore.strategyPk "a")
    (strategyOf "a" .active).modelDump).set (StrategyStore.strategyPk "b")
      (strategyOf "b" status).modelDump
  LedgerStore.saveSnapshot (LedgerStore.saveSnapshot rows "strategy-a" (ledgerHolding 1) 0)
    "strategy-b" (ledgerHolding 2) 0

/-- The broker holds all three shares, and every service answers. -/
def threeShares : HandlerEnv :=
  { brokerPositions := .ok [⟨"AAPL", 3, 30, 10⟩]
    services := fun _ op =>
      match op with
      | .setHalted _ _ | .appendRecommendation _ | .storeAdvisory _ => .ok ()
      | .readRecommendations => .ok ""
      | .invokeLlm _ _ => .ok ("reconciled", 1, 1) }

/-- The whole book of either table is the three shares. -/
theorem threeShares_whole {status : StrategyStatus}
    (book : bookOf (twoStrategies status)
      (botIds [strategyOf "a" .active, strategyOf "b" status]) = [("AAPL", 1), ("AAPL", 2)])
    (symbol : Symbol) :
    balance ([⟨"AAPL", 3, 30, 10⟩].map BrokerPosition.posting) symbol =
      balance (bookOf (twoStrategies status)
        (botIds [strategyOf "a" .active, strategyOf "b" status])) symbol := by
  rw [book, balance_cons, balance_singleton, ← contribution_add, List.map_singleton,
    balance_singleton]
  norm_num [BrokerPosition.posting]

end TradingStrands.AuditorAgent
