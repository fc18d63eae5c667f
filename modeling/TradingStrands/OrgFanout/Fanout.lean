import TradingStrands.Provisioner.BotProvisioner

/-!
Owns the fan-out of a review: its function is invoked once for each organisation, the
system organisation included, and an invocation that raises leaves the others. The
answer counts the invocations and names the organisations whose invocation raised.

Does not own: the reviews that are invoked.
-/

namespace TradingStrands.OrgFanout

open TradingStrands.Foundation

/-- The error is the exception whose text it is. -/
structure InvocationResult where
  orgId : OrgId
  ok : Bool
  error : Option PyError := none
deriving DecidableEq, Repr

def enumerateOrgs (orgs : List Org) : List OrgId := orgs.map (·.orgId)

def reviewPayload (orgId : OrgId) : Payload := Dict.empty.set "org_id" orgId

/-- Invoke the target once per organisation. `invoke` is what becomes of an invocation:
one that raises may have been accepted all the same. -/
def fanOutReview (invoke : String → Payload → PutFate) (targetFunction : String)
    (orgIds : List OrgId) : List InvocationResult :=
  orgIds.map fun orgId =>
    match (invoke targetFunction (reviewPayload orgId)).error? with
    | some error => { orgId, ok := false, error := some error }
    | none => { orgId, ok := true }

structure Summary where
  ok : Bool
  target : String
  total : Nat
  succeeded : Nat
  failed : Nat
  errors : List (OrgId × Option PyError)
deriving DecidableEq, Repr

inductive Answer
  | refused (error : String)
  | summary (summary : Summary)
deriving DecidableEq, Repr

def summarize (target : String) (results : List InvocationResult) : Summary :=
  let failed := results.countP fun result => ¬ result.ok
  { ok := failed = 0, target, total := results.length, succeeded := results.countP (·.ok), failed
    errors := (results.filter fun result => ¬ result.ok).map fun result =>
      (result.orgId, result.error) }

/-- `_run`, on what `list_orgs` answers. Without a target nothing is listed. -/
def run (event : Payload) (listed : Except PyError (List Org))
    (invoke : String → Payload → PutFate) : Except PyError Answer :=
  let target := (event.get? "target_function").getD ""
  if target = "" then .ok (.refused "missing target_function in event payload")
  else listed.map fun orgs =>
    .summary (summarize target (fanOutReview invoke target (enumerateOrgs orgs)))

section Summaries

variable (invoke : String → Payload → PutFate) (target : String) (orgs : List Org)

/-- The organisations whose invocation raised, with what it raised. -/
def raised : List (OrgId × Option PyError) :=
  orgs.filterMap fun org =>
    (invoke target (reviewPayload org.orgId)).error?.map fun error => (org.orgId, some error)

theorem errors_fanOutReview :
    (summarize target (fanOutReview invoke target (enumerateOrgs orgs))).errors =
      raised invoke target orgs := by
  induction orgs with
  | nil => rfl
  | cons org rest inductionHypothesis =>
      unfold summarize fanOutReview enumerateOrgs raised at inductionHypothesis ⊢
      cases outcome : (invoke target (reviewPayload org.orgId)).error? with
      | none => simpa [outcome] using inductionHypothesis
      | some error => simpa [outcome] using inductionHypothesis

theorem failed_summarize (results : List InvocationResult) :
    (summarize target results).failed = (summarize target results).errors.length := by
  unfold summarize
  rw [List.length_map, List.countP_eq_length_filter]

theorem raised_eq_nil_iff : raised invoke target orgs = [] ↔
    ∀ org ∈ orgs, (invoke target (reviewPayload org.orgId)).error? = none := by
  unfold raised
  simp only [List.filterMap_eq_nil_iff, Option.map_eq_none_iff]

/-- Every organisation is tried, whatever becomes of the others: each is counted once,
the answer names those whose invocation raised, and it is good exactly when none did;
then every invocation has got through. -/
theorem run_summary {event : Payload} (named : event.get? "target_function" = some target)
    (nonempty : target ≠ "") :
    ∃ summary, run event (.ok orgs) invoke = .ok (.summary summary) ∧
      summary.total = orgs.length ∧ summary.succeeded + summary.failed = summary.total ∧
      summary.errors = raised invoke target orgs ∧ summary.failed = summary.errors.length ∧
      (summary.ok = true ↔ summary.errors = []) ∧
      (summary.ok = true → ∀ org ∈ orgs,
        (invoke target (reviewPayload org.orgId)).keeps = true) := by
  let results := fanOutReview invoke target (enumerateOrgs orgs)
  have errors := errors_fanOutReview invoke target orgs
  have failed := failed_summarize target results
  have good : (summarize target results).ok = true ↔ (summarize target results).errors = [] := by
    rw [← List.length_eq_zero_iff, ← failed]
    exact decide_eq_true_iff
  refine ⟨summarize target results, ?_, ?_, ?_, errors, failed, good, ?_⟩
  · unfold run
    rw [named, Option.getD_some, if_neg nonempty]
    rfl
  · exact (List.length_map _).trans (List.length_map _)
  · exact (List.length_eq_countP_add_countP InvocationResult.ok).symm
  · intro ok org member
    rw [good, errors, raised_eq_nil_iff] at ok
    exact MemoryCompactor.keeps_of_error?_eq_none (ok org member)

end Summaries

end TradingStrands.OrgFanout
