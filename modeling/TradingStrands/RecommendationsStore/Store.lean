import TradingStrands.Foundation.Decimal
import TradingStrands.Foundation.Newest
import TradingStrands.Foundation.Padded
import TradingStrands.Tenancy.Store

/-!
Owns the advisories that agents leave for an organisation. The key of one is made
of its organisation, its second and the kind of its agent. They are listed newest
first, up to a limit.
-/

namespace TradingStrands

open TradingStrands.Foundation

inductive RecommendationSeverity
  | info
  | warn
  | critical
deriving DecidableEq, Repr

def RecommendationSeverity.value : RecommendationSeverity → String
  | .info => "info"
  | .warn => "warn"
  | .critical => "critical"

def RecommendationSeverity.ofValue? (value : String) : Option RecommendationSeverity :=
  [RecommendationSeverity.info, .warn, .critical].find? fun severity => severity.value = value

/-- One advisory. -/
structure RecommendationEntry where
  orgId : OrgId
  createdAt : Int
  agentType : String
  agentId : String
  severity : RecommendationSeverity
  summary : String
  body : String := ""
deriving DecidableEq, Repr

def RecommendationEntry.modelDump (entry : RecommendationEntry) : Item :=
  [("org_id", .text entry.orgId), ("created_at", .number entry.createdAt),
    ("agent_type", .text entry.agentType), ("agent_id", .text entry.agentId),
    ("severity", .text entry.severity.value), ("summary", .text entry.summary),
    ("body", .text entry.body)]

namespace RecommendationsStore

def ttlSeconds : Int := 90 * 24 * 3600

def pkPrefix : String := "RECOMMENDATION" ++ "#"

def pk (orgId : OrgId) (createdAt : Int) (agentType : String) : String :=
  pkPrefix ++ (orgId ++ "#" ++ toString createdAt ++ "#" ++ agentType)

/-- A call of `append`, with the clock it reads if it is given no time. -/
structure Append where
  orgId : OrgId
  agentType : String
  agentId : String
  severity : String
  summary : String
  body : String := ""
  createdAt : Option Int := none
  now : Int

def Append.timestamp (call : Append) : Int := call.createdAt.getD call.now

def Append.pk (call : Append) : String :=
  RecommendationsStore.pk call.orgId call.timestamp call.agentType

/-- The advisory of a call; a severity that is none raises. -/
def Append.entry (call : Append) : Except PyError RecommendationEntry :=
  match RecommendationSeverity.ofValue? call.severity with
  | none =>
      .error (.valueError [.text ("'" ++ call.severity ++ "' is not a valid RecommendationSeverity")])
  | some severity =>
      .ok { orgId := call.orgId, createdAt := call.timestamp, agentType := call.agentType
            agentId := call.agentId, severity, summary := call.summary, body := call.body }

/-- The row of an advisory, which expires after its retention. -/
def item (entry : RecommendationEntry) : Item :=
  entry.modelDump ++ [("ttl", .number (entry.createdAt + ttlSeconds))]

def append (table : Table) (call : Append) : Except PyError (RecommendationEntry × Table) := do
  let entry ← call.entry
  return (entry, table.putItem call.pk (item entry))

theorem orgId_of_entry {call : Append} {entry : RecommendationEntry}
    (valid : call.entry = .ok entry) : (item entry).attr? "org_id" = some (.text call.orgId) := by
  unfold Append.entry at valid
  split at valid
  · cases valid
  · cases valid
    rfl

theorem familyOf_pk (call : Append) : familyOf '#' call.pk = "RECOMMENDATION".toList :=
  familyOf_append (by decide) (by decide)

/-- Where no kind of agent has the separator in it, advisories share a key if they
are of one organisation, second and kind. -/
theorem pk_eq_iff {left right : Append} (leftFree : FreeOf '#' left.agentType)
    (rightFree : FreeOf '#' right.agentType) :
    left.pk = right.pk ↔ left.orgId = right.orgId ∧ left.timestamp = right.timestamp ∧
      left.agentType = right.agentType := by
  constructor
  · intro same
    have parts := (String.append_right_inj _).mp same
    obtain ⟨front, agents⟩ := joined_inj (by decide) leftFree rightFree parts
    have plain : ∀ number : Int, FreeOf '#' (toString number) := by
      intro number member
      rw [toList_intText] at member
      rcases mem_paddedInt member with sign | digit
      · cases sign
      · cases digit
    obtain ⟨orgs, seconds⟩ := joined_inj (by decide) (plain _) (plain _) front
    exact ⟨orgs, intText_inj seconds, agents⟩
  · rintro ⟨orgs, seconds, agents⟩
    unfold Append.pk
    rw [orgs, seconds, agents]

/-! ### Listing -/

def readSeverity (item : Item) : Except CallError RecommendationSeverity := do
  let value ← item.text "severity"
  match RecommendationSeverity.ofValue? value with
  | none => .error (.validation "severity")
  | some severity => .ok severity

/-- `RecommendationEntry.model_validate`; unknown attributes are ignored. -/
def modelValidate (item : Item) : Except CallError RecommendationEntry := do
  let orgId ← item.text "org_id"
  let createdAt ← item.number "created_at"
  let agentType ← item.text "agent_type"
  let agentId ← item.text "agent_id"
  let severity ← readSeverity item
  let summary ← item.text "summary"
  let body ← item.textD "body" ""
  return { orgId, createdAt, agentType, agentId, severity, summary, body }

@[simp] theorem modelValidate_item (entry : RecommendationEntry) :
    modelValidate (item entry) = .ok entry := by
  obtain ⟨orgId, createdAt, agentType, agentId, severity, summary, body⟩ := entry
  cases severity <;> rfl

def orgPrefix (orgId : OrgId) : String := pkPrefix ++ (orgId ++ "#")

/-- The advisories of an organisation, newest first. -/
def listForOrg (orgId : OrgId) (limit : Nat := 50) : TableProgram (List RecommendationEntry) := do
  let rows ← TableProgram.scanPrefix (orgPrefix orgId)
  let entries ← TableProgram.parsed (rows.mapM fun row => modelValidate row.2)
  return newest RecommendationEntry.createdAt limit entries

end RecommendationsStore

end TradingStrands
