import TradingStrands.FilingsStore.Bodies
import TradingStrands.Tools.Calls

/-!
Owns the tool that hands the body of a filing to an agent: a look at the limit,
the row of the filing by its accession, and the object the row names, cut at a
maximum. What the agent gets is what the store of bodies returns, so the maximum
means the same in both.

Does not own: the listing of a ticker's filings, and the environment variable
that names the bucket.
-/

namespace TradingStrands

open TradingStrands.Foundation

namespace ReadFiling

/-- `_DEFAULT_READ_MAX_BYTES` -/
def defaultReadMaxBytes : Nat := 32 * 1024

/-- Key of the body and ticker of the first row with the accession. -/
def findFilingBodyKey (builtins : Builtins) (accession : String) (table : Table) :
    Except PyError (Option (String × String)) :=
  match table.entries.filter fun row => beginsWith row.1 "FILING_INDEX#" &&
      decide (row.2.attr? "accession" = some (.text accession)) with
  | [] => .ok none
  | row :: _ => do
      let bodyKey ← FilingsIndexStore.field row.2 "body_s3_key"
      let ticker ← FilingsIndexStore.field row.2 "ticker"
      return some (builtins.str bodyKey, builtins.str ticker)

section Run

variable (builtins : Builtins) (call : ToolCall) (maxBytes : Nat) (fault : Option GetFault)
  (bodies : FilingBodies)

/-- `_run_read_filing`; the accession is the argument of the call. -/
def runReadFiling (table : Table) : Except ToolError (Option String) × Table :=
  match call.rateLimit table with
  | .error error => (.error error, table)
  | .ok () =>
      match call.recordCacheHit table with
      | (.error error, after) => (.error error, after)
      | (.ok (), after) =>
          match findFilingBodyKey builtins call.argument after with
          | .error error => (.error (.other error), after)
          | .ok none => (.ok none, after)
          | .ok (some (bodyKey, _)) =>
              match FilingsBodyStore.get fault bodyKey (some maxBytes) bodies with
              | .error error => (.error (.other error), after)
              | .ok body => (.ok body, after)

variable {builtins call maxBytes fault bodies} {table after : Table} {text : String}

/-- A text the agent gets is that of an object some row names, on a call that is
allowed and counted. -/
theorem of_runReadFiling
    (read : runReadFiling builtins call maxBytes fault bodies table = (.ok (some text), after)) :
    call.rateLimit table = .ok () ∧ call.recordCacheHit table = (.ok (), after) ∧
      ∃ bodyKey ticker,
        findFilingBodyKey builtins call.argument after = .ok (some (bodyKey, ticker)) ∧
          FilingsBodyStore.get fault bodyKey (some maxBytes) bodies = .ok (some text) := by
  unfold runReadFiling at read
  cases allowed : call.rateLimit table with
  | error error =>
      rw [allowed] at read
      cases read
  | ok granted =>
      rw [allowed] at read
      dsimp only at read
      cases counted : call.recordCacheHit table with
      | mk counting counters =>
          rw [counted] at read
          cases counting with
          | error error => cases read
          | ok done =>
              dsimp only at read
              cases found : findFilingBodyKey builtins call.argument counters with
              | error error =>
                  rw [found] at read
                  cases read
              | ok row =>
                  rw [found] at read
                  cases row with
                  | none => cases read
                  | some row =>
                      dsimp only at read
                      cases got : FilingsBodyStore.get fault row.1 (some maxBytes) bodies with
                      | error error =>
                          rw [got] at read
                          cases read
                      | ok body =>
                          rw [got] at read
                          cases read
                          exact ⟨rfl, rfl, row.1, row.2, found, got⟩

/-- The call is one of those for filings, with the body as the answer. -/
theorem runFilings_of_runReadFiling
    (read : runReadFiling builtins call maxBytes fault bodies table = (.ok (some text), after))
    (answers : call.env.answer = .ok text) : call.runFilings table = (.served text, after) := by
  obtain ⟨allowed, counted, _⟩ := of_runReadFiling read
  unfold ToolCall.runFilings
  rw [allowed, counted, answers]

end Run

/-! ### The budget -/

/-- Whether every text that is read of a stored body is a part of it that fits the
maximum, be it from the store or from the tool. -/
def RespectsBudget (builtins : Builtins) (bodies : FilingBodies) (key : String)
    (body : List UInt8) (maxBytes : Nat) : Prop :=
  ∀ fault text,
    (FilingsBodyStore.get fault key (some maxBytes) bodies = .ok (some text) ∨
      ∃ call table after ticker,
        runReadFiling builtins call maxBytes fault bodies table = (.ok (some text), after) ∧
          findFilingBodyKey builtins call.argument after = .ok (some (key, ticker))) →
      FilingsBodyStore.FitsBudget body maxBytes text

/-- The budget is respected exactly if the first `maxBytes` bytes are there and
all ASCII, or the decoded body has at most `maxBytes` bytes. -/
theorem respectsBudget_iff (builtins : Builtins) {bodies : FilingBodies} {key : String}
    {body : List UInt8} (stored : bodies.get? key = some body) (maxBytes : Nat) :
    RespectsBudget builtins bodies key body maxBytes ↔
      Utf8.AsciiLead maxBytes body ∨ (FilingsBodyStore.decoded body).utf8ByteSize ≤ maxBytes := by
  rw [← FilingsBodyStore.utf8ByteSize_truncate_le_iff]
  constructor
  · intro respects
    have read : FilingsBodyStore.get none key (some maxBytes) bodies =
        .ok (some (FilingsBodyStore.truncate (FilingsBodyStore.decoded body) (some maxBytes))) := by
      unfold FilingsBodyStore.get
      rw [stored]
      rfl
    exact (respects none _ (Or.inl read)).1
  · intro small fault text source
    have read : FilingsBodyStore.get fault key (some maxBytes) bodies = .ok (some text) := by
      rcases source with read | ⟨call, table, after, ticker, read, found⟩
      · exact read
      · obtain ⟨_, _, bodyKey, _, foundKey, got⟩ := of_runReadFiling read
        have same : key = bodyKey :=
          congrArg Prod.fst (Option.some.inj (Except.ok.inj (found.symm.trans foundKey)))
        rw [same]
        exact got
    rw [FilingsBodyStore.eq_truncate_of_get stored read]
    exact ⟨small, FilingsBodyStore.truncate_isPrefix _ _⟩

/-! ### A body that exceeds its budget -/

/-- The functions of the language on upper-case texts and whole numbers. -/
def upperCaseBuiltins : Builtins where
  upper text := text
  str := Attr.toText
  int value := .ok value.toInt
  upper_upper _ := rfl
  str_text _ := rfl
  int_number _ := rfl

def bodyKey : String := "AAPL/8-K/0000320193-26-000001.html"

theorem respectsBudget_iff_ascii :
    RespectsBudget upperCaseBuiltins (Dict.empty.set bodyKey [0x61, 0x62]) bodyKey [0x61, 0x62] 1 ↔
      Utf8.AsciiLead 1 [0x61, 0x62] ∨
        (FilingsBodyStore.decoded [0x61, 0x62]).utf8ByteSize ≤ 1 :=
  respectsBudget_iff upperCaseBuiltins (Dict.get?_set_self _ _ _) 1

/-- One character of two bytes is not cut at one byte. -/
theorem not_respectsBudget_accent :
    ¬ RespectsBudget upperCaseBuiltins (Dict.empty.set bodyKey [0xC3, 0xA9]) bodyKey [0xC3, 0xA9] 1 := by
  intro respects
  have fits := respects none "é" (Or.inl rfl)
  exact absurd fits.1 (by decide)

end ReadFiling

end TradingStrands
