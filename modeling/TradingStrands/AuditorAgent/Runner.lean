import TradingStrands.Auditor.Reconciler
import TradingStrands.Foundation.Journal
import TradingStrands.Foundation.NumericText

/-!
Owns one invocation of the auditor agent: the deterministic check, the halt it
decides, and the narrative that is written about it. Halt control, memory, the
model and the recommendations store are services that answer or raise as they
like; the halt is settled before any of the others is called.

The day and the text of a quantity, which depends on the digits it carries, are
inputs. Logging is left out.
-/

namespace TradingStrands.AuditorAgent

open TradingStrands.Foundation Program

def auditorSystemPrompt : String :=
"You are a desk auditor for an automated trading organization. Each
cycle, a deterministic check has already reconciled the durable
ledger against the broker's reported positions; your job is to
write the narrative of what happened for a human operator.

You have halt authority: if the deterministic check failed, the desk
has already been halted by the time you are asked to write. Your
recommendation should explain WHY the desk was halted in specific,
observable terms — \"ledger shows AAPL x10 but broker reports x8;
2-share drift since the last reconciliation cycle\".

CRITICAL CONSTRAINTS:
- Do NOT propose trades. You audit; you do not act on the market.
- Do NOT question the deterministic check's result — it is the
  source of truth. Your job is to explain and recommend follow-up.
- Do NOT invent causes. Speculate sparingly and mark it as such.
- If the check passed, say so briefly. Operators do not need a
  500-word essay to tell them \"desk reconciled\".
- If the check failed, be specific: the symbol(s), direction of
  drift, size. Suggest what the orgadmin might investigate first
  (recent trades, broker-side rejections, missed fills).
- Under 400 words.
"

/-! ### Services -/

/-- What is appended to the recommendations store. -/
structure Advisory where
  orgId : OrgId
  agentType : String
  agentId : String
  severity : String
  summary : String
  body : String
deriving DecidableEq

inductive AuditOp
  | setHalted (halted : Bool) (reason : String)
  | readRecommendations
  | invokeLlm (systemPrompt userPrompt : String)
  | appendRecommendation (entry : String)
  | storeAdvisory (advisory : Advisory)
deriving DecidableEq

namespace AuditOp

/-- The model answers with its text and the tokens in and out. -/
abbrev Answer : AuditOp → Type
  | .setHalted _ _ => Unit
  | .readRecommendations => String
  | .invokeLlm _ _ => String × Int × Int
  | .appendRecommendation _ => Unit
  | .storeAdvisory _ => Unit

def isHalt : AuditOp → Bool
  | .setHalted _ _ => true
  | _ => false

end AuditOp

abbrev AuditProgram (α : Type) : Type := Program AuditOp AuditOp.Answer PyError α

structure AuditReviewReport where
  orgId : OrgId
  date : String
  checkStatus : String
  haltTriggered : Bool := false
  recommendation : String := ""
  tokensIn : Int := 0
  tokensOut : Int := 0
  contextBytes : Nat := 0
  /-- What failed, with the exception it failed with. -/
  errors : List (String × PyError) := []
deriving DecidableEq

def AuditReviewReport.failed (report : AuditReviewReport) (what : String) (error : PyError) :
    AuditReviewReport :=
  { report with errors := report.errors ++ [(what, error)] }

/-- What a review is about. -/
structure Review where
  orgId : OrgId
  date : String
  ledgers : Dict BotId Ledger
  brokerPositions : List BrokerPosition
  auditConfig : AuditConfig := {}
  /-- Whether there is a recommendations store. -/
  keepsAdvisories : Bool := false

/-! ### The check and its texts -/

def Review.check (review : Review) : Check :=
  ({ config := review.auditConfig } : Reconciler).reconcilePositions review.ledgers
    review.brokerPositions

/-- Any failed check halts. -/
def decideHalt (check : Check) : Bool := check.status = .fail

def statusText : CheckStatus → String
  | .pass => "pass"
  | .fail => "fail"

/-- Aggregate quantities by symbol. -/
def totals (postings : List (Symbol × Decimal)) : Dict Symbol Decimal :=
  postings.foldl (fun out posting =>
    out.set posting.1 ((out.get? posting.1).getD 0 + posting.2)) Dict.empty

def totalsFromLedgers (ledgers : Dict BotId Ledger) : Dict Symbol Decimal :=
  totals (ledgerPostings ledgers)

def totalsFromBroker (positions : List BrokerPosition) : Dict Symbol Decimal :=
  totals (positions.map BrokerPosition.posting)

/-- What `str.strip` takes off. -/
def isSpace : Char → Bool := Characters.unicode.space

def strip (text : String) : String := String.ofList (trim isSpace text.toList)

section Texts

variable (str : Decimal → String)

def rendered (parts : List MessagePart) : String :=
  String.join (parts.map fun
    | .text text => text
    | .number value => str value)

/-- One line a symbol, in order of the symbols. -/
def totalLines (side : String) (totals : Dict Symbol Decimal) : List String :=
  (totals.entries.insertionSort fun left right => left.1 ≤ right.1).map fun entry =>
    "- " ++ entry.1 ++ ": " ++ side ++ "=" ++ str entry.2

/-- The prompt. The raw totals are always there. -/
def buildContext (orgId : OrgId) (check : Check) (ledgerTotals brokerTotals : Dict Symbol Decimal)
    (priorRecommendations : String) : String :=
  let details := rendered str check.details
  let prior := strip priorRecommendations
  "\n".intercalate (
    ["# Organization: " ++ orgId, "",
      "# Deterministic check: " ++ (statusText check.status).toUpper] ++
    (if details = "" then [] else ["Details: " ++ details]) ++
    ["", "# Ledger totals (aggregated across all active bots)"] ++
    (if ledgerTotals.entries = [] then ["_no open positions in any bot's ledger_"]
      else totalLines str "ledger" ledgerTotals) ++
    ["", "# Broker-reported totals"] ++
    (if brokerTotals.entries = [] then ["_no positions reported by broker_"]
      else totalLines str "broker" brokerTotals) ++
    ["", "# Prior recommendations",
      if prior = "" then "_no prior recommendations yet_" else prior])

def haltReason (review : Review) : String :=
  "auditor-agent: drift in " ++ review.orgId ++ " — " ++ rendered str review.check.details

/-- The entry of the review in the agent's memory. -/
def memoryEntry (review : Review) (report : AuditReviewReport) : String :=
  let details := rendered str review.check.details
  "\n## " ++ review.date ++ " — auditor review" ++
    (if report.haltTriggered = true then " [HALTED]" else "") ++ "\n\n**Check:** " ++
    statusText review.check.status ++ (if details = "" then "" else " — " ++ details) ++
    "\n\n" ++ report.recommendation ++ "\n"

end Texts

/-- The advisory is more urgent where the desk was halted. -/
def advisoryOf (review : Review) (report : AuditReviewReport) : Advisory :=
  { orgId := review.orgId, agentType := "auditor", agentId := "auditor-" ++ review.orgId
    severity := if report.haltTriggered = true then "critical" else "info"
    summary :=
      if report.haltTriggered = true then
        "[HALT] " ++ String.ofList (report.recommendation.toList.take 180)
      else String.ofList (report.recommendation.toList.take 200)
    body := report.recommendation }

/-! ### The review -/

section Steps

variable (str : Decimal → String) (review : Review)

/-- The halt is on the report even if writing it fails. -/
def haltDesk (report : AuditReviewReport) : AuditProgram AuditReviewReport :=
  if decideHalt review.check = true then
    let report := { report with haltTriggered := true }
    guarded (.setHalted true (haltReason str review)) (fun _ => report)
      fun error => report.failed "halt_control" error
  else return report

def readPrior (report : AuditReviewReport) : AuditProgram (String × AuditReviewReport) :=
  guarded .readRecommendations (fun prior => (prior, report))
    fun error => ("", report.failed "memory.read_recommendations" error)

def narrate (userPrompt : String) (report : AuditReviewReport) : AuditProgram AuditReviewReport :=
  guarded (.invokeLlm auditorSystemPrompt userPrompt)
    (fun answer =>
      { report with
        tokensIn := answer.2.1, tokensOut := answer.2.2, recommendation := strip answer.1 })
    fun error => report.failed "llm_invoker" error

def remember (report : AuditReviewReport) : AuditProgram AuditReviewReport :=
  if report.recommendation = "" then return report
  else
    guarded (.appendRecommendation (memoryEntry str review report)) (fun _ => report)
      fun error => report.failed "memory.append_recommendation" error

def advise (report : AuditReviewReport) : AuditProgram AuditReviewReport :=
  if review.keepsAdvisories = true ∧ report.recommendation ≠ "" then
    guarded (.storeAdvisory (advisoryOf review report)) (fun _ => report)
      fun error => report.failed "recommendations_store.append" error
  else return report

/-- One review. The deterministic check runs first, and its halt is written
before the model is asked. -/
def runAuditReview : AuditProgram AuditReviewReport := do
  let report ← haltDesk str review
    { orgId := review.orgId, date := review.date
      checkStatus := if review.check.status = .pass then "pass" else "fail" }
  let (prior, report) ← readPrior report
  let userPrompt := buildContext str review.orgId review.check
    (totalsFromLedgers review.ledgers) (totalsFromBroker review.brokerPositions) prior
  let report ← narrate userPrompt { report with contextBytes := userPrompt.utf8ByteSize }
  let report ← remember str review report
  advise review report

/-! ### What every service leaves to the review -/

/-- The calls that write a halt: one if the check failed, none if it passed. -/
def haltCalls : List AuditOp :=
  if decideHalt review.check = true then [.setHalted true (haltReason str review)] else []

/-- Calls without a halt, which leave the report's halt as it was. -/
def Quiet (halted : Bool) (calls : List AuditOp) (report : AuditReviewReport) : Prop :=
  calls.filter AuditOp.isHalt = [] ∧ report.haltTriggered = halted

variable {str review}

theorem haltDesk_completes {report : AuditReviewReport} (fresh : report.haltTriggered = false) :
    (haltDesk str review report).Completes fun calls after =>
      calls = haltCalls str review ∧ after.haltTriggered = decideHalt review.check := by
  unfold haltDesk haltCalls
  by_cases halts : decideHalt review.check = true
  · rw [if_pos halts, if_pos halts, halts]
    exact Completes.guarded (fun _ => ⟨rfl, rfl⟩) fun _ => ⟨rfl, rfl⟩
  · rw [if_neg halts, if_neg halts]
    rw [Bool.not_eq_true] at halts
    exact Completes.pure ⟨rfl, fresh.trans halts.symm⟩

theorem readPrior_completes (report : AuditReviewReport) :
    (readPrior report).Completes fun calls answer =>
      Quiet report.haltTriggered calls answer.2 :=
  Completes.guarded (fun _ => ⟨rfl, rfl⟩) fun _ => ⟨rfl, rfl⟩

theorem narrate_completes (userPrompt : String) (report : AuditReviewReport) :
    (narrate userPrompt report).Completes (Quiet report.haltTriggered) :=
  Completes.guarded (fun _ => ⟨rfl, rfl⟩) fun _ => ⟨rfl, rfl⟩

theorem remember_completes (report : AuditReviewReport) :
    (remember str review report).Completes (Quiet report.haltTriggered) := by
  unfold remember
  split
  · exact Completes.pure ⟨rfl, rfl⟩
  · exact Completes.guarded (fun _ => ⟨rfl, rfl⟩) fun _ => ⟨rfl, rfl⟩

theorem advise_completes (report : AuditReviewReport) :
    (advise review report).Completes (Quiet report.haltTriggered) := by
  unfold advise
  split
  · exact Completes.guarded (fun _ => ⟨rfl, rfl⟩) fun _ => ⟨rfl, rfl⟩
  · exact Completes.pure ⟨rfl, rfl⟩

/-- Whatever the services do, the review returns. It begins with the halt calls
of its check and makes no others, and reports the halt as decided. -/
theorem runAuditReview_completes (str : Decimal → String) (review : Review) :
    (runAuditReview str review).Completes fun calls report =>
      (∃ rest, calls = haltCalls str review ++ rest ∧ rest.filter AuditOp.isHalt = []) ∧
        report.haltTriggered = decideHalt review.check := by
  unfold runAuditReview
  refine Completes.bind (haltDesk_completes rfl) fun first afterHalt halted => ?_
  obtain ⟨rfl, decided⟩ := halted
  refine Completes.bind (readPrior_completes afterHalt) fun second prior read => ?_
  refine Completes.bind (narrate_completes _ _) fun third narrated asked => ?_
  refine Completes.bind (remember_completes narrated) fun fourth remembered kept => ?_
  refine (advise_completes remembered).mono fun last report advised => ?_
  refine ⟨⟨second ++ (third ++ (fourth ++ last)), rfl, ?_⟩, ?_⟩
  · simp only [List.filter_append, read.1, asked.1, kept.1, advised.1, List.append_nil]
  · rw [advised.2, kept.2, asked.2, ← decided]
    exact read.2

end Steps

/-- One review against services: how it ends, and the calls it makes. -/
def reviewed (str : Decimal → String) (review : Review)
    (service : Replies AuditOp AuditOp.Answer PyError) :
    Except PyError AuditReviewReport × List AuditOp :=
  (runAuditReview str review).runAttempts (journaled service) []

/-- The two sides hold different quantities of some symbol. -/
def Review.Drifts (review : Review) : Prop :=
  ∃ symbol, balance (ledgerPostings review.ledgers) symbol ≠
    balance (review.brokerPositions.map BrokerPosition.posting) symbol

theorem decideHalt_iff (review : Review) : decideHalt review.check = true ↔ review.Drifts := by
  have passes := ({ config := review.auditConfig } : Reconciler).reconcilePositions_pass_iff
    review.ledgers review.brokerPositions
  have drifts : review.Drifts ↔ review.check.status ≠ .pass := by
    unfold Review.Drifts Review.check
    rw [Ne, passes, not_forall]
  rw [drifts]
  unfold decideHalt
  cases review.check.status <;> simp

theorem filter_haltCalls (str : Decimal → String) (review : Review) :
    (haltCalls str review).filter AuditOp.isHalt = haltCalls str review := by
  unfold haltCalls
  split <;> rfl

/-- Whatever comes before a call of the model holds all halt calls. -/
private theorem halts_before_invoke {halts rest before after : List AuditOp} {call : AuditOp}
    (onlyHalts : halts.filter AuditOp.isHalt = halts) (quiet : rest.filter AuditOp.isHalt = [])
    (notHalt : call.isHalt = false) (cut : halts ++ rest = before ++ call :: after) :
    before.filter AuditOp.isHalt = (halts ++ rest).filter AuditOp.isHalt := by
  rcases List.append_eq_append_iff.mp cut with ⟨middle, rfl, tail⟩ | ⟨middle, whole, tail⟩
  · rw [tail, List.filter_append, List.append_eq_nil_iff] at quiet
    rw [tail]
    simp only [List.filter_append, quiet.1, quiet.2, List.append_nil]
  · cases middle with
    | nil =>
        rw [List.append_nil] at whole
        rw [List.filter_append, quiet, List.append_nil, whole]
    | cons head middle =>
        -- The call would be one of the halt calls.
        obtain ⟨rfl, -⟩ := List.cons.inj tail
        have member : call ∈ halts.filter AuditOp.isHalt := by
          rw [onlyHalts, whole]
          simp
        rw [(List.mem_filter.mp member).2] at notHalt
        cases notHalt

end TradingStrands.AuditorAgent
