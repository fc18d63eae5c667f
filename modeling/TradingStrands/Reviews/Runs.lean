import TradingStrands.Reviews.Review

/-!
Owns the reviews of all agents over one bucket, in any order and beside whatever else
is appended to it or compacted in it. A review is asked with every earlier review that
was kept in its file, adds its own block exactly when the model answered and the append
was kept, and lists exactly the services that failed it.

The types and ids of agents are free of the key's delimiter.
-/

namespace TradingStrands.Reviews

open TradingStrands.Foundation AgentMemoryStore MemoryCompactor
open TradingStrands.AuditorAgent (strip)
open TradingStrands.Strategies (Printing)

/-- One invocation of an agent. -/
inductive Invocation
  | risk (orgId : OrgId) (calls : ReviewCalls) (ledgers : Dict BotId Ledger)
      (recentFills : List FillRow) (publish : Option PublishCall)
  | compliance (orgId : OrgId) (calls : ReviewCalls) (strategies : List StrategyMandate)
      (publish : Option PublishCall)
  | critique (orgId : OrgId) (botId : BotId) (calls : ReviewCalls) (strategyPrompt : String)
      (ledger : Option Ledger) (daysFaults : ReadFaults)

namespace Invocation

def reviewer : Invocation → Reviewer
  | .risk .. => riskReviewer
  | .compliance .. => complianceReviewer
  | .critique .. => critiqueReviewer

def calls : Invocation → ReviewCalls
  | .risk _ calls _ _ _ => calls
  | .compliance _ calls _ _ => calls
  | .critique _ _ calls _ _ _ => calls

def publishCall : Invocation → Option PublishCall
  | .risk _ _ _ _ publish => publish
  | .compliance _ _ _ publish => publish
  | .critique .. => none

/-- What is reviewed: an organisation or a bot. -/
def subject : Invocation → String
  | .risk orgId .. => orgId
  | .compliance orgId .. => orgId
  | .critique _ botId .. => botId

/-- The memory that a review is given. A strategy's review has the strategy's own. -/
def store : Invocation → AgentMemoryStore
  | .risk orgId .. => ⟨orgId, riskReviewer.agentType, orgId⟩
  | .compliance orgId .. => ⟨orgId, complianceReviewer.agentType, orgId⟩
  | .critique orgId botId .. => ⟨orgId, critiqueReviewer.agentType, botId⟩

/-- The run of the invocation. A week is five days of memory. -/
def outcome (print : Printing) (bucket : Bucket) (table : Table) (invocation : Invocation) :
    Outcome × Table :=
  match invocation with
  | .risk orgId calls ledgers recentFills publish =>
      runRiskReview print invocation.store calls orgId ledgers recentFills publish bucket table
  | .compliance orgId calls strategies publish =>
      runComplianceReview print invocation.store calls orgId strategies publish bucket table
  | .critique _ botId calls strategyPrompt ledger daysFaults =>
      (runSelfCritique print invocation.store calls botId strategyPrompt ledger 5 daysFaults bucket,
        table)

/-- The prompt around the earlier reviews, if the review comes to ask at all. -/
def context? (print : Printing) (bucket : Bucket) (invocation : Invocation) :
    Option (String → String) :=
  match invocation with
  | .risk orgId _ ledgers recentFills _ =>
      some (riskContext orgId (summarizeFleet print ledgers) recentFills)
  | .compliance orgId _ strategies _ =>
      if strategies = [] then none else some (complianceContext print orgId strategies)
  | .critique _ _ calls strategyPrompt ledger daysFaults =>
      (invocation.store.loadRecentDays daysFaults bucket 5 (calls.now / 86400)).toOption.map
        fun recent => critiqueContext strategyPrompt recent (summarizeLedger print ledger)

/-- The append of a review whose model answers. -/
def append? (print : Printing) (bucket : Bucket) (invocation : Invocation) : Option FileAppend :=
  match invocation.context? print bucket, invocation.calls.answer with
  | some _, .ok (text, _, _) =>
      some ⟨invocation.store, invocation.reviewer.file,
        invocation.reviewer.entry (isoDate invocation.calls.now) (strip text),
        invocation.calls.appendFaults, invocation.calls.appendFate⟩
  | _, _ => none

end Invocation

/-! ### One review -/

section Consulting

variable (reviewer : Reviewer) (store : AgentMemoryStore) (calls : ReviewCalls)

/-- The earlier reviews that a review is asked with. -/
def priorText (bucket : Bucket) : String :=
  if (calls.readFaults (store.fileKey reviewer.file)).isNone = true then
    textAt bucket (store.fileKey reviewer.file)
  else ""

/-- What fails when the earlier reviews are read. -/
def readFailures : List (String × PyError) :=
  (calls.readFaults (store.fileKey reviewer.file)).toList.map fun error =>
    (reviewer.readLabel, error)

/-- What fails when the block is appended. -/
def appendFailures : List (String × PyError) :=
  ((calls.appendFaults (store.fileKey reviewer.file)).or calls.appendFate.error?).toList.map
    fun error => (reviewer.appendLabel, error)

theorem readPrior_eq (bucket : Bucket) (report : ReviewReport) :
    readPrior reviewer store calls bucket report =
      (priorText reviewer store calls bucket,
        { report with errors := report.errors ++ readFailures reviewer store calls }) := by
  unfold readPrior AgentMemoryStore.read priorText readFailures
  cases calls.readFaults (store.fileKey reviewer.file) with
  | none => simp [textAt]
  | some error => simp [ReviewReport.failed]

theorem remember_eq (bucket : Bucket) (report : ReviewReport) :
    remember reviewer store calls bucket report =
      ({ report with errors := report.errors ++ appendFailures reviewer store calls },
        (append calls.appendFaults bucket calls.appendFate (store.fileKey reviewer.file)
          (reviewer.entry report.date report.text)).2) := by
  unfold remember append AgentMemoryStore.read appendFailures
  cases calls.appendFaults (store.fileKey reviewer.file) with
  | some error => simp [ReviewReport.failed]
  | none =>
      unfold AgentMemoryStore.write
      cases calls.appendFate with
      | stored => simp [PutFate.put, PutFate.error?]
      | raises error kept => simp [PutFate.put, PutFate.error?, ReviewReport.failed]

theorem asked_consult (context : String → String) (bucket : Bucket) (report : ReviewReport) :
    (consult reviewer store calls context bucket report).asked =
      some (reviewer.systemPrompt, context (priorText reviewer store calls bucket)) := by
  unfold consult
  rw [readPrior_eq]
  cases calls.answer <;> rfl

theorem bucket_consult (context : String → String) (bucket : Bucket) (report : ReviewReport) :
    (consult reviewer store calls context bucket report).bucket =
      match calls.answer with
      | .error _ => bucket
      | .ok (text, _, _) => (append calls.appendFaults bucket calls.appendFate
          (store.fileKey reviewer.file) (reviewer.entry report.date (strip text))).2 := by
  unfold consult
  rw [readPrior_eq]
  cases calls.answer with
  | error error => rfl
  | ok answer =>
      dsimp only
      rw [remember_eq]

theorem errors_consult (context : String → String) (bucket : Bucket) (report : ReviewReport) :
    (consult reviewer store calls context bucket report).report.errors =
      report.errors ++ readFailures reviewer store calls ++
        match calls.answer with
        | .error error => [("llm_invoker", error)]
        | .ok _ => appendFailures reviewer store calls := by
  unfold consult
  rw [readPrior_eq]
  cases calls.answer with
  | error error => rfl
  | ok answer =>
      dsimp only
      rw [remember_eq]

end Consulting

/-- What fails when an advisory is left. -/
def publishFailures (call : Option PublishCall) : List (String × PyError) :=
  (call.bind fun call => call.fate.error?).toList.map fun error =>
    ("recommendations_store.append", error)

/-- The severity of a review is one there is. -/
theorem exists_append_info (table : Table) (call : RecommendationsStore.Append)
    (info : call.severity = "info") : ∃ written, RecommendationsStore.append table call = .ok written := by
  have known : RecommendationSeverity.ofValue? "info" = some .info := by decide
  unfold RecommendationsStore.append RecommendationsStore.Append.entry
  rw [info, known]
  exact ⟨_, rfl⟩

theorem report_publish (agentType : String) (orgId : OrgId) (call : Option PublishCall)
    (table : Table) (report : ReviewReport) :
    (publish agentType orgId call table report).1 =
      { report with errors := report.errors ++ publishFailures call } := by
  unfold publishFailures publish
  cases call with
  | none => simp
  | some call =>
      obtain ⟨⟨entry, written⟩, appended⟩ := exists_append_info table
        { orgId, agentType, agentId := agentType ++ "-" ++ orgId, severity := "info"
          summary := String.ofList (report.text.toList.take 200), body := report.text
          now := call.now } rfl
      dsimp only
      rw [appended]
      cases fate : call.fate with
      | stored => simp [fate, PutFate.put, PutFate.error?]
      | raises error kept => simp [fate, PutFate.put, PutFate.error?, ReviewReport.failed]

theorem advised_eq (agentType : String) (orgId : OrgId) (calls : ReviewCalls)
    (call : Option PublishCall) (table : Table) (outcome : Outcome) :
    (advised agentType orgId calls call table outcome).1 =
      { outcome with report :=
        { outcome.report with errors := outcome.report.errors ++
            if calls.answer.isOk = true then publishFailures call else [] } } := by
  unfold advised
  cases calls.answer with
  | error error => simp [Except.isOk, Except.toBool]
  | ok answer =>
      dsimp only
      rw [report_publish]
      simp [Except.isOk, Except.toBool]

namespace Invocation

variable (print : Printing) (bucket : Bucket) (table : Table) (invocation : Invocation)

/-- A review that comes to ask is one consultation, and an advisory. -/
theorem outcome_of_context {context : String → String}
    (asks : invocation.context? print bucket = some context) :
    (invocation.outcome print bucket table).1 =
      (advised invocation.reviewer.agentType invocation.subject invocation.calls
        invocation.publishCall table
        (consult invocation.reviewer invocation.store invocation.calls context bucket
          { subject := invocation.subject, date := isoDate invocation.calls.now })).1 := by
  cases invocation with
  | risk orgId calls ledgers recentFills publish =>
      obtain rfl := Option.some.inj asks
      rfl
  | compliance orgId calls strategies publish =>
      change (if strategies = [] then none else some (complianceContext print orgId strategies)) =
        some context at asks
      by_cases empty : strategies = []
      · simp [empty] at asks
      · rw [if_neg empty] at asks
        obtain rfl := Option.some.inj asks
        simp only [outcome, runComplianceReview, if_neg empty]
        rfl
  | critique orgId botId calls strategyPrompt ledger daysFaults =>
      obtain ⟨recent, loaded, rfl⟩ := Option.map_eq_some_iff.mp asks
      rw [toOption_eq_some_iff] at loaded
      rw [advised_eq]
      simp only [outcome, runSelfCritique, publishCall, publishFailures]
      rw [loaded]
      simp [reviewer, subject, Invocation.calls]

/-- A review that does not come to ask leaves everything as it is. -/
theorem outcome_of_no_context (silent : invocation.context? print bucket = none) :
    (invocation.outcome print bucket table).1.bucket = bucket ∧
      (invocation.outcome print bucket table).1.asked = none := by
  cases invocation with
  | risk => exact absurd silent nofun
  | compliance orgId calls strategies publish =>
      change (if strategies = [] then none else some (complianceContext print orgId strategies)) =
        none at silent
      by_cases empty : strategies = []
      · simp [outcome, runComplianceReview, empty]
      · simp [empty] at silent
  | critique orgId botId calls strategyPrompt ledger daysFaults =>
      have loads := Option.map_eq_none_iff.mp silent
      simp only [outcome, runSelfCritique]
      cases loaded : (critique orgId botId calls strategyPrompt ledger daysFaults).store.loadRecentDays
          daysFaults bucket 5 (calls.now / 86400) with
      | error error => exact ⟨rfl, rfl⟩
      | ok recent => simp [loaded, Except.toOption] at loads

/-- What a review leaves of the bucket: what its append leaves, if it makes one. -/
theorem bucket_outcome :
    (invocation.outcome print bucket table).1.bucket =
      (invocation.append? print bucket).elim bucket fun call =>
        (append call.faults bucket call.fate call.key call.text).2 := by
  unfold append?
  cases asks : invocation.context? print bucket with
  | none => exact (invocation.outcome_of_no_context print bucket table asks).1
  | some context =>
      rw [invocation.outcome_of_context print bucket table asks, advised_eq]
      dsimp only
      rw [bucket_consult]
      cases invocation.calls.answer <;> rfl

/-- What a review lists as failed. -/
def failures : List (String × PyError) :=
  readFailures invocation.reviewer invocation.store invocation.calls ++
    match invocation.calls.answer with
    | .error error => [("llm_invoker", error)]
    | .ok _ => appendFailures invocation.reviewer invocation.store invocation.calls ++
        publishFailures invocation.publishCall

/-- What the model is asked, and what the review lists as failed. -/
theorem asked_outcome {context : String → String}
    (asks : invocation.context? print bucket = some context) :
    (invocation.outcome print bucket table).1.asked =
        some (invocation.reviewer.systemPrompt,
          context (priorText invocation.reviewer invocation.store invocation.calls bucket)) ∧
      (invocation.outcome print bucket table).1.report.errors = invocation.failures := by
  rw [invocation.outcome_of_context print bucket table asks, advised_eq]
  refine ⟨asked_consult .., ?_⟩
  dsimp only
  rw [errors_consult]
  unfold failures
  cases invocation.calls.answer with
  | error error => simp [Except.isOk, Except.toBool]
  | ok answer => simp [Except.isOk, Except.toBool]

end Invocation

/-! ### Runs -/

/-- One event of the bucket. -/
inductive ReviewEvent
  | invoke (invocation : Invocation)
  /-- An append or a compaction of any agent. -/
  | memory (event : MemoryEvent)

structure ReviewState where
  bucket : Bucket
  table : Table

def ReviewState.step (print : Printing) (state : ReviewState) : ReviewEvent → ReviewState
  | .invoke invocation =>
      let (outcome, table) := invocation.outcome print state.bucket state.table
      ⟨outcome.bucket, table⟩
  | .memory event => { state with bucket := MemoryCompactor.step state.bucket event }

namespace ReviewEvent

/-- The agents of the event can be told from others by their keys. -/
def Plain : ReviewEvent → Prop
  | .invoke invocation => invocation.store.Plain
  | .memory event => event.Plain

/-- The blocks that an event adds to a file of an agent. -/
def adds (print : Printing) (store : AgentMemoryStore) (file : MemoryFile) (state : ReviewState) :
    ReviewEvent → List String
  | .invoke invocation =>
      ((invocation.append? print state.bucket).bind (·.adds? store file)).toList
  | .memory event => (event.adds? store file).toList

end ReviewEvent

/-- The blocks that a run adds to a file of an agent. -/
def kept (print : Printing) (store : AgentMemoryStore) (file : MemoryFile) :
    ReviewState → List ReviewEvent → List String :=
  outputs (ReviewState.step print) (ReviewEvent.adds print store file)

theorem textAt_reviewStep {store : AgentMemoryStore} (plain : store.Plain) (file : MemoryFile)
    (state : ReviewState) {event : ReviewEvent} (eventPlain : event.Plain) :
    textAt (state.step print event).bucket (store.fileKey file) =
      run appended (textAt state.bucket (store.fileKey file)) (event.adds print store file state) := by
  cases event with
  | memory event => exact textAt_step plain eventPlain state.bucket file
  | invoke invocation =>
      unfold ReviewState.step ReviewEvent.adds
      dsimp only
      rw [invocation.bucket_outcome print]
      cases appends : invocation.append? print state.bucket with
      | none => rfl
      | some call =>
          have own : call.store = invocation.store := by
            unfold Invocation.append? at appends
            split at appends
            · rw [← Option.some.inj appends]
            · cases appends
          exact textAt_fileAppend plain (own ▸ eventPlain) state.bucket file

/-- After any run every file of every agent holds what it held and the blocks that were
kept for it since; the next review of the agent is asked with exactly that, where it can
read it, and lists exactly the services that fail it. -/
theorem reviews_run {events : List ReviewEvent} (eventsPlain : ∀ event ∈ events, event.Plain)
    (start : ReviewState) :
    let state := run (ReviewState.step print) start events
    let text := fun store file =>
      grown (textAt start.bucket (store.fileKey file)) (kept print store file start events)
    (∀ store : AgentMemoryStore, store.Plain → ∀ file,
        textAt state.bucket (store.fileKey file) = text store file) ∧
      ∀ (invocation : Invocation) context, invocation.store.Plain →
        invocation.context? print state.bucket = some context →
          (invocation.calls.readFaults (invocation.store.fileKey invocation.reviewer.file) = none →
            (invocation.outcome print state.bucket state.table).1.asked =
              some (invocation.reviewer.systemPrompt,
                context (text invocation.store invocation.reviewer.file))) ∧
          (invocation.outcome print state.bucket state.table).1.report.errors =
            invocation.failures := by
  intro state text
  have texts : ∀ store : AgentMemoryStore, store.Plain → ∀ file,
      textAt state.bucket (store.fileKey file) = text store file := by
    intro store plain file
    dsimp only [text]
    rw [← foldl_appended]
    exact run_view_outputs (ReviewState.step print)
      (fun state => textAt state.bucket (store.fileKey file))
      (fun state event member => textAt_reviewStep plain file state (eventsPlain event member)) start
  refine ⟨texts, fun invocation context plain asks => ?_⟩
  obtain ⟨asked, errors⟩ := invocation.asked_outcome print state.bucket state.table asks
  refine ⟨fun readable => ?_, errors⟩
  rw [asked, priorText, readable, Option.isNone_none, if_pos rfl, texts _ plain]

/-- Services that answer what they are told to. -/
def answering (answer : Except PyError (String × Int × Int)) : ReviewCalls where
  now := 400000
  readFaults := fun _ => none
  answer := answer
  appendFaults := fun _ => none
  appendFate := .stored

def riskOf (orgId : OrgId) (answer : Except PyError (String × Int × Int)) : Invocation :=
  .risk orgId (answering answer) Dict.empty [] none

/-- A review whose model fails, one that is kept, and one of another organisation. -/
def threeReviews : List ReviewEvent :=
  [.invoke (riskOf "acme" (.error (.external "throttled"))),
    .invoke (riskOf "acme" (.ok ("  Watch SPY. ", 9, 3))),
    .invoke (riskOf "other" (.ok ("Fine.", 9, 1)))]

def bare : Printing := ⟨fun _ => "", fun _ => "", fun text => text⟩

theorem reviews_run_threeReviews :
    let state := run (ReviewState.step bare) ⟨Dict.empty, Dict.empty⟩ threeReviews
    ((riskOf "acme" (.error (.external "throttled"))).outcome bare state.bucket state.table).1.asked =
        some (riskReviewer.systemPrompt, riskContext "acme" "_no bots in this org_" []
          "\n## 1970-01-05 — risk review\n\nWatch SPY.\n") ∧
      ((riskOf "acme" (.error (.external "throttled"))).outcome bare state.bucket
          state.table).1.report.errors = [("llm_invoker", .external "throttled")] := by
  have plain : ∀ event ∈ threeReviews, event.Plain := by
    intro event member
    simp only [threeReviews, List.mem_cons, List.not_mem_nil, or_false] at member
    rcases member with rfl | rfl | rfl <;> exact ⟨by decide, by decide⟩
  obtain ⟨-, review⟩ := @reviews_run bare _ plain ⟨Dict.empty, Dict.empty⟩
  obtain ⟨asked, errors⟩ := review (riskOf "acme" (.error (.external "throttled"))) _
    ⟨by decide, by decide⟩ rfl
  refine ⟨(asked rfl).trans ?_, errors⟩
  have text : grown "" (kept bare ⟨"acme", "risk", "acme"⟩ .recommendations
      ⟨Dict.empty, Dict.empty⟩ threeReviews) =
        "\n## 1970-01-05 — risk review\n\nWatch SPY.\n" := by decide +kernel
  rw [← text]
  rfl

end TradingStrands.Reviews
