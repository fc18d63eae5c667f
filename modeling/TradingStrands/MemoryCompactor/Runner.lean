import TradingStrands.AgentMemory.Store

/-!
Owns the compaction of one day of an agent's memory: the raw file goes to the
model, and what it answers becomes the compressed file. Nothing is written where
the raw file is blank or a step before the write raises.

The model is a function of its two prompts. A text is a sequence of Unicode
scalar values; one with a lone surrogate cannot be encoded, and the run that gets
it raises before it writes.
-/

namespace TradingStrands.MemoryCompactor

open TradingStrands.Foundation AgentMemoryStore

def compactorSystemPrompt : String :=
"You are a memory compactor for an automated trading agent.

You will receive the raw markdown memory for one trading day. Produce
a compressed version that preserves the DECISION TRACE while dropping
fine-grained tick-level noise. The audience is:
  - the agent itself, tomorrow (for next-day context);
  - the weekend Self-Critique Agent (reasoning over a week's memory);
  - the chat feature (answering \"what did we do yesterday?\").

Preserve, with their timestamps + data pointers:
  - Every BUY / SELL / CLOSE action, the rationale, the outcome.
  - HOLD and NOOP decisions where the rationale shifted vs prior days.
  - Ledger-moving events (fills, fee lines, halts).
  - Any confabulation flags (claims without MARKETDATA#/LEDGER#/
    DECISION# pointers — keep them so critique can see them).

Drop:
  - Repeated \"no signal, noop\" lines from adjacent ticks.
  - Verbose market-data snapshots that duplicate the MARKETDATA# pointer.
  - Model reasoning that does not affect the decision.

CRITICAL:
  - Preserve all data pointers verbatim. Do not invent pointers.
  - Do not drop decisions. Summarizing ≠ deleting history.
  - If a section is already brief, re-emit it as-is rather than
    pretending to summarize.
  - Output markdown. Keep the day's header. Maintain chronological order.
"

/-- Output of one compaction. -/
structure CompactReport where
  orgId : String
  agentType : String
  agentId : String
  date : String
  tokensIn : Int := 0
  tokensOut : Int := 0
  rawBytes : Nat := 0
  compressedBytes : Nat := 0
  skippedReason : String := ""
  /-- What failed, with the exception it failed with. -/
  errors : List (String × PyError) := []
deriving DecidableEq

/-- Whether the model was asked and a file written. -/
def CompactReport.ran (report : CompactReport) : Bool :=
  report.skippedReason = "" ∧ report.errors = []

def CompactReport.failed (report : CompactReport) (what : String) (error : PyError) :
    CompactReport :=
  { report with errors := report.errors ++ [(what, error)] }

/-- The arguments of a compaction, and what becomes of its calls. -/
structure CompactCall where
  memoryStore : AgentMemoryStore
  date : String
  orgId : String
  agentType : String
  agentId : String
  /-- Text, tokens in and tokens out. -/
  llmInvoker : String → String → Except PyError (String × Int × Int)
  faults : ReadFaults
  fate : PutFate

def CompactCall.userPrompt (call : CompactCall) (raw : String) : String :=
  "# Raw memory for " ++ call.date ++ " (org " ++ call.orgId ++ ", agent " ++ call.agentId ++
    ")\n\n" ++ raw

/-- Compact the raw memory of a day into its compressed file. -/
def runCompactDay (call : CompactCall) (bucket : Bucket) : CompactReport × Bucket :=
  let report : CompactReport :=
    { orgId := call.orgId, agentType := call.agentType, agentId := call.agentId
      date := call.date }
  match call.memoryStore.readDay call.faults bucket call.date with
  | .error error => (report.failed "memory.read_day" error, bucket)
  | .ok raw =>
      let report := { report with rawBytes := raw.utf8ByteSize }
      if isBlank raw = true then ({ report with skippedReason := "empty_raw" }, bucket)
      else
        match call.llmInvoker compactorSystemPrompt (call.userPrompt raw) with
        | .error error => (report.failed "llm_invoker" error, bucket)
        | .ok (text, tokensIn, tokensOut) =>
            let compressed := AuditorAgent.strip text ++ "\n"
            let report := { report with
              tokensIn, tokensOut, compressedBytes := compressed.utf8ByteSize }
            match call.memoryStore.writeCompressed bucket call.fate call.date compressed with
            | (.error error, bucket) => (report.failed "memory.write_compressed" error, bucket)
            | (.ok _, bucket) => (report, bucket)

namespace CompactCall

variable (call : CompactCall) (bucket : Bucket)

def rawKey : String := call.memoryStore.dailyKey call.date .raw

def compressedKey : String := call.memoryStore.dailyKey call.date .compressed

def raw : String := (bucket.get? call.rawKey).getD ""

/-- The run comes to keep a file of this text of the model. -/
structure Writes (text : String) : Prop where
  read : call.faults call.rawKey = none
  notBlank : isBlank (call.raw bucket) = false
  answered : ∃ tokens, call.llmInvoker compactorSystemPrompt
    (call.userPrompt (call.raw bucket)) = .ok (text, tokens)
  kept : call.fate.keeps = true

end CompactCall

/-- A run leaves the bucket as it was, or writes the compressed file of the day. -/
theorem bucket_of_runCompactDay (call : CompactCall) (bucket : Bucket) :
    ((runCompactDay call bucket).2 = bucket ∧ ∀ text, ¬ call.Writes bucket text) ∨
      ∃ text, call.Writes bucket text ∧ (runCompactDay call bucket).2 =
        bucket.set call.compressedKey (AuditorAgent.strip text ++ "\n") := by
  cases day : call.memoryStore.readDay call.faults bucket call.date with
  | error error =>
      refine Or.inl ⟨?_, fun text writes => ?_⟩
      · unfold runCompactDay
        rw [day]
      · have read : call.memoryStore.readDay call.faults bucket call.date =
            .ok (call.raw bucket) := read_ok_iff.mpr ⟨writes.read, rfl⟩
        cases read.symm.trans day
  | ok raw =>
      obtain ⟨read, rfl⟩ := read_ok_iff.mp day
      change call.memoryStore.readDay call.faults bucket call.date = .ok (call.raw bucket) at day
      unfold runCompactDay
      rw [day]
      dsimp only
      by_cases blank : isBlank (call.raw bucket) = true
      · rw [if_pos blank]
        refine Or.inl ⟨rfl, fun text writes => ?_⟩
        rw [writes.notBlank] at blank
        cases blank
      · rw [if_neg blank]
        cases answer : call.llmInvoker compactorSystemPrompt
            (call.userPrompt (call.raw bucket)) with
        | error error =>
            refine Or.inl ⟨rfl, fun text writes => ?_⟩
            obtain ⟨tokens, answered⟩ := writes.answered
            cases answered.symm.trans answer
        | ok reply =>
            obtain ⟨text, tokens⟩ := reply
            have writes : call.fate.keeps = true → call.Writes bucket text := fun kept =>
              { read, notBlank := Bool.not_eq_true _ ▸ blank, answered := ⟨tokens, answer⟩, kept }
            unfold writeCompressed AgentMemoryStore.write PutFate.put
            cases fate : call.fate with
            | stored =>
                refine Or.inr ⟨text, writes ?_, rfl⟩
                rw [fate]
                rfl
            | raises error kept =>
                cases kept with
                | true =>
                    refine Or.inr ⟨text, writes ?_, rfl⟩
                    rw [fate]
                    rfl
                | false =>
                    refine Or.inl ⟨rfl, fun other wrote => ?_⟩
                    have kept := wrote.kept
                    rw [fate] at kept
                    cases kept

end TradingStrands.MemoryCompactor
