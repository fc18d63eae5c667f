import TradingStrands.LedgerStore.Store
import TradingStrands.MemoryCompactor.Appends
import TradingStrands.RecommendationsStore.Store
import TradingStrands.Strategies.Prompt

/-!
Owns one invocation of the agents that review: of an organisation's risk, of its
compliance, and of a strategy's week. Each reads its own earlier reviews, asks the
model, appends what it answers to the file it read, and may leave an advisory. What
fails is listed in the report; nothing raises.

The day of a review, what the model answers and the text of a quantity are inputs.
Logging is left out.
-/

namespace TradingStrands.Reviews

open TradingStrands.Foundation AgentMemoryStore
open TradingStrands.AuditorAgent (strip)
open TradingStrands.Strategies (Printing)

structure ReviewReport where
  /-- The organisation, or the bot. -/
  subject : String
  date : String
  /-- The recommendation or the reflection. -/
  text : String := ""
  tokensIn : Int := 0
  tokensOut : Int := 0
  contextBytes : Nat := 0
  skippedReason : Option String := none
  /-- What failed, with the exception it failed with. -/
  errors : List (String × PyError) := []
deriving DecidableEq, Repr

def ReviewReport.failed (report : ReviewReport) (what : String) (error : PyError) : ReviewReport :=
  { report with errors := report.errors ++ [(what, error)] }

/-- What the agents differ in. -/
structure Reviewer where
  agentType : String
  systemPrompt : String
  /-- The file that is read before and appended to after. -/
  file : MemoryFile
  title : String
  readLabel : String
  appendLabel : String

/-- The block a review appends. -/
def Reviewer.entry (reviewer : Reviewer) (date text : String) : String :=
  "\n## " ++ date ++ " — " ++ reviewer.title ++ "\n\n" ++ text ++ "\n"

/-- What the services do during a review. -/
structure ReviewCalls where
  now : Int
  readFaults : ReadFaults
  /-- The model answers with its text and the tokens in and out. -/
  answer : Except PyError (String × Int × Int)
  appendFaults : ReadFaults
  appendFate : PutFate

/-- How a review ends: its report, the bucket, and what the model was asked, if it
was. -/
structure Outcome where
  report : ReviewReport
  bucket : Bucket
  asked : Option (String × String) := none

/-! ### The steps the agents share -/

section Steps

variable (reviewer : Reviewer) (store : AgentMemoryStore) (calls : ReviewCalls)

/-- The earlier reviews; none where reading them fails. -/
def readPrior (bucket : Bucket) (report : ReviewReport) : String × ReviewReport :=
  match read calls.readFaults bucket (store.fileKey reviewer.file) with
  | .ok prior => (prior, report)
  | .error error => ("", report.failed reviewer.readLabel error)

def remember (bucket : Bucket) (report : ReviewReport) : ReviewReport × Bucket :=
  match append calls.appendFaults bucket calls.appendFate (store.fileKey reviewer.file)
      (reviewer.entry report.date report.text) with
  | (.ok (), after) => (report, after)
  | (.error error, after) => (report.failed reviewer.appendLabel error, after)

/-- Read, ask, append. -/
def consult (context : String → String) (bucket : Bucket) (report : ReviewReport) : Outcome :=
  let (prior, report) := readPrior reviewer store calls bucket report
  let userPrompt := context prior
  let report := { report with contextBytes := userPrompt.utf8ByteSize }
  let asked := some (reviewer.systemPrompt, userPrompt)
  match calls.answer with
  | .error error => ⟨report.failed "llm_invoker" error, bucket, asked⟩
  | .ok (text, tokensIn, tokensOut) =>
      let (report, after) := remember reviewer store calls bucket
        { report with tokensIn, tokensOut, text := strip text }
      ⟨report, after, asked⟩

end Steps

/-- The prior reviews as a prompt shows them. -/
def shownPrior (placeholder prior : String) : String :=
  if strip prior = "" then placeholder else strip prior

/-! ### The risk agent -/

/-- A recorded fill; what a row lacks has the default. -/
structure FillRow where
  ts : Int := 0
  fillJson : String := ""

def FillRow.line (row : FillRow) : String := "ts=" ++ toString row.ts ++ " " ++ row.fillJson

def riskReviewer : Reviewer where
  agentType := "risk"
  systemPrompt :=
"You are an organization-level risk reviewer for an automated trading
platform. You review the org's fleet of strategies periodically and
produce short, actionable recommendations for a human orgadmin.

Your scope:
- Concentration risk across the fleet (positions that are large
  fractions of total equity, or overlap across multiple strategies).
- Drawdown trajectory — is any strategy repeatedly making new lows?
- Pattern risk — cross-strategy correlation, signs that two \"independent\"
  strategies are taking the same trade for the same reason.

CRITICAL CONSTRAINTS:
- Do NOT propose trades. You are a reviewer, not a strategy.
- Do NOT attempt to change the deterministic risk manager's config.
  The deterministic code in the hot path stays authoritative; your
  recommendations are suggestions the orgadmin evaluates.
- Do NOT invent market data. Reason only from what's provided in the
  context. If you need something that isn't there, say so.
- Keep recommendations under 400 words. Short, specific, actionable.
- Frame each recommendation as: what you observed, why it's a concern,
  what the orgadmin might consider. The orgadmin decides.
"
  file := .recommendations
  title := "risk review"
  readLabel := "memory.read_recommendations"
  appendLabel := "memory.append_recommendation"

section Risk

variable (print : Printing)

def burdened (position : Position) : String :=
  position.symbol ++ " x" ++ print.decimal position.quantity ++ " @ $" ++
    print.decimal position.burdenedCostBasis

/-- `", ".join(…) or placeholder`. -/
def joinedOr (placeholder : String) (parts : List String) : String :=
  let joined := ", ".intercalate parts
  if joined = "" then placeholder else joined

/-- Roll up the org's ledgers into one markdown block. -/
def summarizeFleet (ledgers : Dict BotId Ledger) : String :=
  if ledgers.entries = [] then "_no bots in this org_"
  else
    "Fleet total starting capital: $" ++
      print.decimal (ledgers.entries.map fun entry => entry.2.startingCapital).sum ++
      ". Total realized PnL: $" ++
      print.decimal (ledgers.entries.map fun entry => entry.2.realizedPnl).sum ++ ".\n" ++
      "\n".intercalate (ledgers.entries.map fun entry =>
        "- **" ++ entry.1 ++ "**: start $" ++ print.decimal entry.2.startingCapital ++
          ", realized $" ++ print.decimal entry.2.realizedPnl ++
          ", hwm $" ++ print.decimal entry.2.highWaterMark ++
          ", open: " ++ joinedOr "none" (entry.2.openPositions.map (burdened print)))

/-- The prompt of a risk review. -/
def riskContext (orgId : OrgId) (fleetSummary : String) (recentFills : List FillRow)
    (prior : String) : String :=
  "\n".intercalate (
    ["# Organization: " ++ orgId, "", "# Fleet summary", strip fleetSummary, "",
      "# Prior recommendations", shownPrior "_no prior recommendations yet_" prior, "",
      "# Recent fills (newest first)"] ++
    if recentFills = [] then ["_no recent fills in the review window_"]
    else (recentFills.take 50).map fun row => "- " ++ row.line)

end Risk

/-- The clock and the fate of a write to the recommendations store. -/
structure PublishCall where
  now : Int
  fate : PutFate

/-- Leave an advisory for the dashboard, if there is a store for it. -/
def publish (agentType : String) (orgId : OrgId) (call : Option PublishCall) (table : Table)
    (report : ReviewReport) : ReviewReport × Table :=
  match call with
  | none => (report, table)
  | some call =>
      let label := "recommendations_store.append"
      match RecommendationsStore.append table
          { orgId, agentType, agentId := agentType ++ "-" ++ orgId, severity := "info"
            summary := String.ofList (report.text.toList.take 200), body := report.text
            now := call.now } with
      | .error error => (report.failed label error, table)
      | .ok (_, written) =>
          match call.fate.put (fun _ => written) table with
          | (.ok (), after) => (report, after)
          | (.error error, after) => (report.failed label error, after)

/-- An advisory follows a review whose model answered. -/
def advised (agentType : String) (orgId : OrgId) (calls : ReviewCalls)
    (call : Option PublishCall) (table : Table) (outcome : Outcome) : Outcome × Table :=
  match calls.answer with
  | .error _ => (outcome, table)
  | .ok _ =>
      let (report, after) := publish agentType orgId call table outcome.report
      ({ outcome with report }, after)

def runRiskReview (print : Printing) (store : AgentMemoryStore) (calls : ReviewCalls)
    (orgId : OrgId) (ledgers : Dict BotId Ledger) (recentFills : List FillRow)
    (call : Option PublishCall) (bucket : Bucket) (table : Table) : Outcome × Table :=
  advised "risk" orgId calls call table
    (consult riskReviewer store calls (riskContext orgId (summarizeFleet print ledgers) recentFills)
      bucket { subject := orgId, date := isoDate calls.now })

/-! ### The compliance agent -/

/-- One strategy's mandate and what was observed of it. -/
structure StrategyMandate where
  strategyId : String
  botId : BotId
  name : String
  promptMarkdown : String
  declaredSymbols : List Symbol
  ledger : Option Ledger
  recentFills : List FillRow

def complianceReviewer : Reviewer where
  agentType := "compliance"
  systemPrompt :=
"You are a compliance reviewer for an automated trading organization.
You read each active strategy's declared mandate (its prompt) and its
observed recent activity, and produce short, specific recommendations
for a human orgadmin.

Your scope:
- Strategy drift: is the strategy's recent behavior consistent with
  its declared mandate? Flag when a \"long-only value\" strategy takes
  shorts, or when a strategy described for one sector trades another.
- Regulatory posture: concerning patterns around PDT, wash sales, or
  inconsistent sizing relative to stated risk rules.
- Cross-strategy concerns within the org: two strategies that claim
  different mandates but actually take the same trades for the same
  reasons.

CRITICAL CONSTRAINTS:
- Do NOT propose edits to strategy prompts. Recommend that the
  orgadmin review and decide. Author-of-record rules apply.
- Do NOT propose trades. You review; you do not act.
- Do NOT invent facts not in the context.
- Keep each recommendation under 300 words. Specific, actionable,
  framed as observation + concern + what the orgadmin might consider.
"
  file := .recommendations
  title := "compliance review"
  readLabel := "memory.read_recommendations"
  appendLabel := "memory.append_recommendation"

def summarizeMandate (print : Printing) (mandate : StrategyMandate) : String :=
  let positions := (mandate.ledger.map fun ledger => joinedOr "none"
    (ledger.openPositions.map fun position =>
      position.symbol ++ " x" ++ print.decimal position.quantity)).getD "none"
  let realized := (mandate.ledger.map fun ledger => print.decimal ledger.realizedPnl).getD "0"
  let fills := (mandate.recentFills.take 10).map fun row => "  - " ++ row.line
  "### " ++ mandate.name ++ " (" ++ mandate.botId ++ ")\n\n**Declared symbols:** " ++
    joinedOr "(dynamic selection)" mandate.declaredSymbols ++
    "\n\n**Declared mandate (strategy prompt):**\n\n" ++ strip mandate.promptMarkdown ++
    "\n\n**Observed state:** open positions: " ++ positions ++ "; realized PnL: $" ++ realized ++
    "\n\n**Recent fills:**\n" ++
    (if fills = [] then "  _no recent fills_" else "\n".intercalate fills) ++ "\n"

/-- The prompt of a compliance review. -/
def complianceContext (print : Printing) (orgId : OrgId) (strategies : List StrategyMandate)
    (prior : String) : String :=
  "\n".intercalate (
    ["# Organization: " ++ orgId, "", "# Prior compliance recommendations",
      shownPrior "_no prior recommendations yet_" prior, "", "# Strategies under review"] ++
    if strategies = [] then ["_no strategies in this org to review_"]
    else strategies.flatMap fun mandate => ["", summarizeMandate print mandate])

/-- Without strategies there is nothing to review. -/
def runComplianceReview (print : Printing) (store : AgentMemoryStore) (calls : ReviewCalls)
    (orgId : OrgId) (strategies : List StrategyMandate) (call : Option PublishCall)
    (bucket : Bucket) (table : Table) : Outcome × Table :=
  let report : ReviewReport := { subject := orgId, date := isoDate calls.now }
  if strategies = [] then
    (⟨{ report with skippedReason := some "no strategies" }, bucket, none⟩, table)
  else
    advised "compliance" orgId calls call table
      (consult complianceReviewer store calls (complianceContext print orgId strategies) bucket
        report)

/-! ### The self-critique -/

def critiqueReviewer : Reviewer where
  agentType := "strategy"
  systemPrompt :=
"You are a disciplined trading strategy's weekend reflection coach.

You are reviewing the recorded actions and reasoning of a live trading
strategy over the past week. Your job:

1. Identify patterns in what the strategy actually did. Did it follow its
   own stated rules? Did it make trades that in hindsight were off-thesis?
2. Note decisions whose rationale does not align with the strategy prompt.
3. Highlight missed opportunities where the strategy's rules would have
   suggested an action it did not take.
4. Propose specific, narrow lessons the strategy should remember next week.
   Each lesson must be actionable and specific (not \"trade better\").

You MAY additionally propose a specific edit to the strategy prompt
itself when a structural problem can't be fixed by a lesson alone
(e.g. a missing rule, an ambiguous entry condition). Prompt edits are
delivered as proposals for the author to review — never auto-applied.

CRITICAL CONSTRAINTS:
- Do NOT invent what the market did. Only reason from the data provided.
  If a claim about market behavior isn't in the context, flag it as
  speculative or omit it.
- Do NOT propose trades the strategy should have made unless you can
  cite the specific observations that would have triggered them.
- Keep the reflection under 500 words. Brevity reflects discipline.
- When proposing a prompt edit, supply the FULL replacement markdown
  (not a diff) — the dashboard renders a diff against the current
  prompt at review time. Explain the rationale separately from the
  replacement text.
"
  file := .lessons
  title := "weekend self-critique"
  readLabel := "memory.read_lessons"
  appendLabel := "memory.append_lesson"

/-- One paragraph on a ledger. -/
def summarizeLedger (print : Printing) : Option Ledger → String
  | none => "_ledger unavailable_"
  | some ledger =>
      "Starting capital: $" ++ print.decimal ledger.startingCapital ++
        ". Realized PnL: $" ++ print.decimal ledger.realizedPnl ++
        ". High water mark: $" ++ print.decimal ledger.highWaterMark ++
        ". Open positions: " ++ joinedOr "none" (ledger.openPositions.map (burdened print)) ++ "."

/-- The section of a day of recorded memory. -/
def daySection (day : String × String) : List String :=
  ["\n## " ++ day.1, shownPrior "_no memory recorded for this day_" day.2]

/-- The prompt of a self-critique. -/
def critiqueContext (strategyPrompt : String) (recentDays : List (String × String))
    (ledgerSummary lessons : String) : String :=
  "\n".intercalate (
    ["# Strategy prompt (immutable reference)", strip strategyPrompt, "",
      "# Current lessons (prior reflections)", shownPrior "_no prior lessons yet_" lessons, "",
      "# Ledger summary", strip ledgerSummary, "", "# Recorded memory, newest day first"] ++
    recentDays.flatMap daySection)

/-- The recorded days come first; without them nothing is asked. -/
def runSelfCritique (print : Printing) (store : AgentMemoryStore) (calls : ReviewCalls)
    (botId : BotId) (strategyPrompt : String) (ledger : Option Ledger) (recentDaysCount : Nat)
    (daysFaults : ReadFaults) (bucket : Bucket) : Outcome :=
  let report : ReviewReport := { subject := botId, date := isoDate calls.now }
  match store.loadRecentDays daysFaults bucket recentDaysCount (calls.now / 86400) with
  | .error error => ⟨report.failed "memory.load_recent_days" error, bucket, none⟩
  | .ok recent =>
      consult critiqueReviewer store calls
        (critiqueContext strategyPrompt recent (summarizeLedger print ledger)) bucket report

end TradingStrands.Reviews
