import TradingStrands.Foundation.Decimal

/-!
Owns the allowlist of models a strategy can run on. Saving a strategy checks its
model against the list; starting a bot resolves it.
-/

namespace TradingStrands.Models

/-- The ids on the allowlist, in the order they are offered. -/
def allowlist : List String :=
  ["us.anthropic.claude-sonnet-4-6", "us.anthropic.claude-opus-4-7",
    "us.anthropic.claude-opus-4-6", "us.anthropic.claude-haiku-4-5", "us.amazon.nova-pro-v1:0",
    "openai.gpt-5", "openai.gpt-5-mini"]

def defaultModelId : String := "us.anthropic.claude-sonnet-4-6"

/-- Whether an id can be saved; the empty one stands for the default. -/
def validateModelId (modelId : String) : Bool := modelId = "" ∨ modelId ∈ allowlist

/-- The model an id stands for. An id that is not on the list stands for none: the
source raises. -/
def resolveModelId (modelId : String) : Option String :=
  if modelId = "" then some defaultModelId
  else if modelId ∈ allowlist then some modelId
  else none

/-- What can be saved can be resolved. -/
theorem resolveModelId_isSome_iff {modelId : String} :
    (resolveModelId modelId).isSome = true ↔ validateModelId modelId = true := by
  unfold resolveModelId validateModelId
  split_ifs with unset listed <;> simp [*]

theorem mem_of_resolveModelId {modelId model : String}
    (resolved : resolveModelId modelId = some model) : model ∈ allowlist := by
  unfold resolveModelId at resolved
  split_ifs at resolved with unset listed
  · rw [← Option.some_inj.mp resolved]
    exact List.mem_cons_self
  · exact Option.some_inj.mp resolved ▸ listed

end TradingStrands.Models
