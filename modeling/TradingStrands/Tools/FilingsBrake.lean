import TradingStrands.Tools.Calls
import TradingStrands.ToolQuota.Reservations

/-!
Owns the brake on reads of filings where calls interleave. A call looks at the
counter of the day first and counts itself afterwards, so a call that has passed
is not seen by the next until then; and one that passes before midnight may count
itself after it.

What the filings store answers is a parameter, as for a call on its own.
-/

namespace TradingStrands.FilingsBrake

open TradingStrands.Foundation
open Program (perform)
open ToolQuotaStore (pk todayUtc hitsAttr counting counted Counts stored)

/-- A call that lists or reads filings, with the moment it counts itself at, and the
one its row's expiry is set from. -/
structure FilingsCall where
  call : ToolCall
  recordedAt : Int
  expiresFrom : Int
  filings : call.tool.function.toolName = "filings"

namespace FilingsCall

variable (request : FilingsCall)

def strategyId : String := request.call.tool.context.strategyId

def dailyQuota : Int := request.call.tool.dailyQuota

def checkedAt : Int := request.call.env.seconds

/-- The row the limit is checked on. -/
def checkedPk : String := pk request.strategyId (todayUtc request.checkedAt)

/-- What the store answers. -/
def finish : QuotaProgram String :=
  match request.call.env.answer with
  | .error error => throw (.other error)
  | .ok payload => return payload

/-- What follows the check of the limit. -/
def serve : QuotaProgram String := do
  let _ ← counting (pk request.strategyId (todayUtc request.recordedAt)) (hitsAttr "filings")
    request.expiresFrom
  request.finish

/-- What is decided on the row. -/
def check (row : Option Item) : QuotaProgram String :=
  let hits := (((row.getD []).attr? (hitsAttr "filings")).map Attr.toInt).getD 0
  if request.dailyQuota ≤ 0 ∨ request.dailyQuota ≤ hits then
    throw (.quotaExceeded ⟨request.strategyId, "filings", hits, request.dailyQuota⟩)
  else request.serve

/-- `_run_list_filings` and `_run_read_filing`. -/
def program : QuotaProgram String := do
  let row ← (perform (QuotaOp.getItem request.checkedPk) : QuotaProgram (Option Item))
  request.check row

theorem program_eq : request.program = .call (.getItem request.checkedPk) fun row =>
    match row with
    | .error error => throw error
    | .ok row => request.check row := by
  unfold program
  show Program.call _ _ = Program.call _ _
  congr 1
  funext answer
  cases answer <;> rfl

theorem serve_eq : request.serve =
    .call (.addOne (pk request.strategyId (todayUtc request.recordedAt)) (hitsAttr "filings")
      request.expiresFrom) fun answer => counted answer >>= fun _ => request.finish := by
  unfold serve
  rw [ToolQuotaStore.counting_eq]
  rfl

theorem check_eq (table : Table) : request.check (table.getItem request.checkedPk) =
    if request.dailyQuota ≤ 0 ∨ request.dailyQuota ≤
        ToolQuotaStore.counter table request.checkedPk (hitsAttr "filings") then
      throw (.quotaExceeded ⟨request.strategyId, "filings",
        ToolQuotaStore.counter table request.checkedPk (hitsAttr "filings"), request.dailyQuota⟩)
    else request.serve := rfl

/-- How a program's end is told. -/
def outcome : Except ToolError String × Table → CallOutcome × Table
  | (.ok payload, after) => (.served payload, after)
  | (.error error, after) => (.raised error, after)

theorem rateLimit_eq (table : Table) : request.call.rateLimit table =
    if request.dailyQuota ≤ 0 ∨ request.dailyQuota ≤
        ToolQuotaStore.counter table request.checkedPk (hitsAttr "filings") then
      .error (.quotaExceeded ⟨request.strategyId, "filings",
        ToolQuotaStore.counter table request.checkedPk (hitsAttr "filings"), request.dailyQuota⟩)
    else .ok () := by
  unfold ToolCall.rateLimit ToolQuotaStore.cacheHitsToday
  dsimp only
  rw [request.filings]
  rfl

theorem recordCacheHit_eq (table : Table) : request.call.recordCacheHit table =
    ToolQuotaStore.recordCacheHit table request.strategyId "filings" request.checkedAt := by
  unfold ToolCall.recordCacheHit
  rw [request.filings]
  rfl

/-- Undisturbed, within one moment, the program is the call. -/
theorem run_program (table : Table) (recordedNow : request.recordedAt = request.checkedAt)
    (expiresNow : request.expiresFrom = request.checkedAt) :
    outcome (request.program.run QuotaOp.apply table) = request.call.runFilings table := by
  unfold ToolCall.runFilings
  rw [rateLimit_eq, recordCacheHit_eq, program_eq]
  show outcome (Program.run QuotaOp.apply (request.check (table.getItem request.checkedPk)) table) =
    _
  by_cases refused : request.dailyQuota ≤ 0 ∨ request.dailyQuota ≤
      ToolQuotaStore.counter table request.checkedPk (hitsAttr "filings")
  · rw [check_eq, if_pos refused, if_pos refused]
    rfl
  · rw [check_eq, if_neg refused, if_neg refused]
    unfold serve ToolQuotaStore.recordCacheHit
    rw [Program.run_bind, ToolQuotaStore.run_counting, recordedNow, expiresNow]
    cases ToolQuotaStore.addOne table (pk request.strategyId (todayUtc request.checkedAt))
      (hitsAttr "filings") request.checkedAt with
    | error error => rfl
    | ok counted =>
        dsimp only
        unfold finish
        cases request.call.env.answer <;> rfl

end FilingsCall

abbrev Reads : Type := Pool QuotaOp QuotaOp.Answer ToolError String Table FilingsCall

abbrev ReadThread : Type := Thread QuotaOp QuotaOp.Answer ToolError String FilingsCall

/-- The call has passed the limit: it is about to count itself, or has come to an end
that is not a refusal. -/
def Passed (thread : ReadThread) : Bool :=
  match thread.program with
  | .call (.getItem _) _ => false
  | .call (.addOne _ _ _) _ => true
  | .done (.error (.quotaExceeded _)) => false
  | .done _ => true

section Day

variable (strategyId : String) (today : Int)

/-- The call is one of the strategy, checked on the day of the moment. -/
def own (thread : ReadThread) : Bool :=
  thread.request.strategyId = strategyId ∧ utcDay thread.request.checkedAt = utcDay today

def passed (thread : ReadThread) : Bool := own strategyId today thread && Passed thread

def served (thread : ReadThread) : Bool := own strategyId today thread && thread.program.returned

/-- The call has counted itself on the day. -/
def recorded (thread : ReadThread) : Bool :=
  passed strategyId today thread &&
    (thread.program.ended && utcDay thread.request.recordedAt = utcDay today)

/-- The call has passed, and the counter of the day does not have it. -/
def uncounted (thread : ReadThread) : Bool :=
  passed strategyId today thread &&
    !(thread.program.ended && utcDay thread.request.recordedAt = utcDay today)

/-- The counter of the day. -/
def hits (reads : Reads) : Int :=
  ToolQuotaStore.counter reads.state (pk strategyId (todayUtc today)) (hitsAttr "filings")

/-- At most the quota have passed, and been served. -/
def Held (quota : Int) (reads : Reads) : Prop :=
  (reads.count (passed strategyId today) : Int) ≤ quota ∧
    (reads.count (served strategyId today) : Int) ≤ quota

/-- When a call of the strategy checks the limit on the day and the counter is below
the quota, the calls that have passed and are not in the counter leave room for it. -/
def LeavesRoom (quota : Int) (reads : Reads) : Move FilingsCall → Prop
  | .start _ => True
  | .advance index =>
      ∀ thread ∈ reads.threads[index]?, own strategyId today thread = true →
        thread.program.ended = false → Passed thread = false →
          hits strategyId today reads < quota →
            hits strategyId today reads + reads.count (uncounted strategyId today) < quota

instance (quota : Int) (reads : Reads) :
    DecidablePred (LeavesRoom strategyId today quota reads)
  | .start _ => .isTrue trivial
  | .advance index => inferInstanceAs (Decidable (∀ thread ∈ reads.threads[index]?, _))

/-- The calls of the strategy on the day have one quota. -/
def OneQuota (quota : Int) (moves : List (Move FilingsCall)) : Prop :=
  ∀ request, Move.start request ∈ moves → request.strategyId = strategyId →
    utcDay request.checkedAt = utcDay today → request.dailyQuota = quota

end Day

/-! ### The brake holds -/

/-- The counter of the day has every call that counted itself on it, and at most the
quota have passed. -/
structure Braked (strategyId : String) (today quota : Int) (reads : Reads) : Prop where
  quotas : ∀ thread ∈ reads.threads, own strategyId today thread = true →
    thread.request.dailyQuota = quota
  stages : ∀ thread ∈ reads.threads, thread.program = thread.request.program ∨
    thread.program = thread.request.serve ∨ thread.program.ended = true
  counter : ∃ count : Nat,
    Counts reads.state (pk strategyId (todayUtc today)) (hitsAttr "filings") count ∧
      reads.count (recorded strategyId today) ≤ count
  within : (reads.count (passed strategyId today) : Int) ≤ quota

variable {strategyId : String} {today quota : Int} {reads : Reads}

theorem counter_of_counts {table : Table} {key name : String} {count : Nat}
    (counts : Counts table key name count) : ToolQuotaStore.counter table key name = count := by
  show ((stored table key name).map Attr.toInt).getD 0 = _
  rcases counts with present | ⟨missing, rfl⟩
  · rw [present]
    rfl
  · rw [missing]
    rfl

theorem recorded_eq_false {thread : ReadThread} (other : passed strategyId today thread = false) :
    recorded strategyId today thread = false := by
  unfold recorded
  rw [other, Bool.false_and]

/-- A call that has not passed is added, or ends so. -/
theorem not_passed_program (request : FilingsCall) : Passed ⟨request, request.program⟩ = false := by
  unfold Passed
  rw [request.program_eq]

theorem passed_program (request : FilingsCall) :
    passed strategyId today ⟨request, request.program⟩ = false := by
  unfold passed
  rw [not_passed_program, Bool.and_false]

/-- A check alone does not count the call. -/
theorem recorded_check (request : FilingsCall) (table : Table) :
    recorded strategyId today
      ⟨request, request.check (table.getItem request.checkedPk)⟩ = false := by
  unfold recorded passed Passed
  rw [request.check_eq]
  split
  · exact congrArg (· && _) (Bool.and_false _)
  · rw [request.serve_eq]
    exact Bool.and_false _

/-- A call passes only below its quota. -/
theorem allowed_of_passed {request : FilingsCall} {table : Table}
    (passes : Passed ⟨request, request.check (table.getItem request.checkedPk)⟩ = true) :
    ¬ (request.dailyQuota ≤ 0 ∨ request.dailyQuota ≤
      ToolQuotaStore.counter table request.checkedPk (hitsAttr "filings")) := by
  intro refused
  rw [request.check_eq, if_pos refused] at passes
  cases passes

/-- Once it has counted itself, a call comes to its end, and not by a refusal. -/
theorem ended_counted_finish (request : FilingsCall)
    (answer : Except PyError Int) :
    (counted (.ok answer) >>= fun _ => request.finish).ended = true ∧
      Passed ⟨request, counted (.ok answer) >>= fun _ => request.finish⟩ = true := by
  unfold FilingsCall.finish
  cases answer with
  | error error => exact ⟨rfl, rfl⟩
  | ok count => cases request.call.env.answer <;> exact ⟨rfl, rfl⟩

theorem checkedPk_of_own {request : FilingsCall} {program : QuotaProgram String}
    (mine : own strategyId today ⟨request, program⟩ = true) :
    request.checkedPk = pk strategyId (todayUtc today) := by
  obtain ⟨sameId, sameDay⟩ := of_decide_eq_true mine
  unfold FilingsCall.checkedPk
  rw [show request.strategyId = strategyId from sameId,
    show todayUtc request.checkedAt = todayUtc today from isoDate_eq_iff.mpr sameDay]

theorem recordedPk_of_recorded {request : FilingsCall} {program : QuotaProgram String}
    (recording : recorded strategyId today ⟨request, program⟩ = true) :
    pk request.strategyId (todayUtc request.recordedAt) = pk strategyId (todayUtc today) := by
  obtain ⟨passes, marked⟩ := Bool.and_eq_true_iff.mp recording
  have sameId := (of_decide_eq_true (Bool.and_eq_true_iff.mp passes).1).1
  have sameDay := of_decide_eq_true (Bool.and_eq_true_iff.mp marked).2
  rw [show request.strategyId = strategyId from sameId,
    show todayUtc request.recordedAt = todayUtc today from isoDate_eq_iff.mpr sameDay]

theorem Braked.start (braked : Braked strategyId today quota reads) (request : FilingsCall)
    (same : own strategyId today ⟨request, request.program⟩ = true →
      request.dailyQuota = quota) :
    Braked strategyId today quota
      { reads with threads := reads.threads ++ [⟨request, request.program⟩] } := by
  obtain ⟨count, counts, below⟩ := braked.counter
  have waiting : passed strategyId today ⟨request, request.program⟩ = false :=
    passed_program request
  refine ⟨Pool.forall_start braked.quotas same, Pool.forall_start braked.stages (.inl rfl),
    ⟨count, counts, ?_⟩, ?_⟩
  · rw [Pool.count_start, recorded_eq_false waiting]
    exact below
  · rw [Pool.count_start, waiting]
    exact braked.within

/-- A check changes nothing but where its call stands. -/
theorem Braked.check (braked : Braked strategyId today quota reads)
    {before after : List ReadThread} {request : FilingsCall} {program : QuotaProgram String}
    (threads : reads.threads = before ++ ⟨request, request.program⟩ :: after)
    (checked : program = request.check (reads.state.getItem request.checkedPk))
    (room : own strategyId today ⟨request, request.program⟩ = true →
      hits strategyId today reads < quota →
        hits strategyId today reads + reads.count (uncounted strategyId today) < quota) :
    Braked strategyId today quota
      { state := reads.state, threads := before ++ ⟨request, program⟩ :: after } := by
  obtain ⟨count, counts, below⟩ := braked.counter
  have waiting : passed strategyId today ⟨request, request.program⟩ = false :=
    passed_program request
  have member : (⟨request, request.program⟩ : ReadThread) ∈ reads.threads := by
    rw [threads]
    exact List.mem_append_cons_self
  have stage : program = request.program ∨ program = request.serve ∨ program.ended = true := by
    rw [checked, request.check_eq]
    split
    · exact .inr (.inr rfl)
    · exact .inr (.inl rfl)
  have notRecorded : recorded strategyId today ⟨request, program⟩ = false := by
    rw [checked]
    exact recorded_check request reads.state
  have limit : own strategyId today ⟨request, program⟩ = true → request.dailyQuota = quota :=
    braked.quotas ⟨request, request.program⟩ member
  refine ⟨Pool.forall_advance threads braked.quotas limit,
    Pool.forall_advance threads braked.stages stage, ⟨count, counts, ?_⟩, ?_⟩
  · rw [Pool.count_advance_of_eq threads (notRecorded.trans (recorded_eq_false waiting).symm)]
    exact below
  cases passes : passed strategyId today ⟨request, program⟩ with
  | false =>
      rw [Pool.count_advance_of_eq threads (passes.trans waiting.symm)]
      exact braked.within
  | true =>
      obtain ⟨mine, isPassed⟩ := Bool.and_eq_true_iff.mp passes
      have counter := counter_of_counts counts
      rw [checked] at isPassed
      have allowed := allowed_of_passed isPassed
      rw [limit mine, checkedPk_of_own mine] at allowed
      have leaves := room mine (by
        unfold hits
        omega)
      have split := reads.count_split (passed strategyId today) fun thread =>
        thread.program.ended && utcDay thread.request.recordedAt = utcDay today
      have parts : reads.count (passed strategyId today) =
          reads.count (recorded strategyId today) + reads.count (uncounted strategyId today) := split
      unfold hits at leaves
      rw [Pool.count_advance_of_new threads waiting passes]
      omega

/-- A call that has passed counts itself, and comes to its end. -/
theorem Braked.record (braked : Braked strategyId today quota reads)
    {before after : List ReadThread} {request : FilingsCall} {program : QuotaProgram String}
    (threads : reads.threads = before ++ ⟨request, request.serve⟩ :: after)
    (ends : program = (counted (.ok (QuotaOp.apply (.addOne
      (pk request.strategyId (todayUtc request.recordedAt)) (hitsAttr "filings")
        request.expiresFrom) reads.state).1) >>= fun _ => request.finish)) :
    Braked strategyId today quota
      { state := (QuotaOp.apply (.addOne (pk request.strategyId (todayUtc request.recordedAt))
          (hitsAttr "filings") request.expiresFrom) reads.state).2
        threads := before ++ ⟨request, program⟩ :: after } := by
  obtain ⟨count, counts, below⟩ := braked.counter
  obtain ⟨ended, isPassed⟩ : program.ended = true ∧ Passed ⟨request, program⟩ = true := by
    rw [ends]
    exact ended_counted_finish request _
  have wasPassed : Passed ⟨request, request.serve⟩ = true := by
    unfold Passed
    rw [request.serve_eq]
  have wasRunning : request.serve.ended = false := by
    rw [request.serve_eq]
    rfl
  have member : (⟨request, request.serve⟩ : ReadThread) ∈ reads.threads := by
    rw [threads]
    exact List.mem_append_cons_self
  have samePassed : passed strategyId today ⟨request, program⟩ =
      passed strategyId today ⟨request, request.serve⟩ := by
    unfold passed
    rw [isPassed, wasPassed]
    rfl
  have wasNotRecorded : recorded strategyId today ⟨request, request.serve⟩ = false := by
    unfold recorded
    rw [wasRunning, Bool.false_and, Bool.and_false]
  have limit : own strategyId today ⟨request, program⟩ = true → request.dailyQuota = quota :=
    braked.quotas ⟨request, request.serve⟩ member
  refine ⟨Pool.forall_advance threads braked.quotas limit,
    Pool.forall_advance threads braked.stages (.inr (.inr ended)), ?_, ?_⟩
  · by_cases row : pk strategyId (todayUtc today) =
        pk request.strategyId (todayUtc request.recordedAt)
    · rw [← row]
      obtain ⟨_, more⟩ := counts.apply_addOne request.expiresFrom
        (ToolQuotaStore.hitsAttr_ne_ttl "filings")
      refine ⟨count + 1, more, ?_⟩
      cases recording : recorded strategyId today ⟨request, program⟩ with
      | false =>
          rw [Pool.count_advance_of_eq threads (recording.trans wasNotRecorded.symm)]
          omega
      | true =>
          rw [Pool.count_advance_of_new threads wasNotRecorded recording]
          omega
    · have notRecorded : recorded strategyId today ⟨request, program⟩ = false := by
        by_contra recording
        rw [Bool.not_eq_false] at recording
        exact row (recordedPk_of_recorded recording).symm
      refine ⟨count, ?_, ?_⟩
      · unfold Counts
        rw [ToolQuotaStore.stored_addOne_of_ne request.expiresFrom (.inl row)
          (ToolQuotaStore.hitsAttr_ne_ttl "filings")]
        exact counts
      · rw [Pool.count_advance_of_eq threads (notRecorded.trans wasNotRecorded.symm)]
        exact below
  · rw [Pool.count_advance_of_eq threads samePassed]
    exact braked.within

theorem Braked.move (braked : Braked strategyId today quota reads) (next : Move FilingsCall)
    (room : LeavesRoom strategyId today quota reads next)
    (same : ∀ request, next = .start request →
      own strategyId today ⟨request, request.program⟩ = true → request.dailyQuota = quota) :
    Braked strategyId today quota (reads.move QuotaOp.apply FilingsCall.program next) := by
  rcases @Pool.move_cases _ _ _ _ _ _ QuotaOp.apply FilingsCall.program reads next with
    ⟨request, starts, moved⟩ | ⟨index, before, request, op, rest, after, advances, found, threads,
      moved⟩ | moved
  · rw [moved]
    exact braked.start request (same request starts)
  · rw [moved]
    rcases braked.stages _ (List.mem_of_getElem? found) with checks | records | ended
    · have waits : Program.call op rest = request.program := checks
      rw [waits] at found threads
      rw [request.program_eq] at waits
      cases waits
      refine braked.check threads rfl fun mine => ?_
      rw [advances] at room
      refine room _ found mine ?_ (not_passed_program request)
      show request.program.ended = false
      rw [request.program_eq]
      rfl
    · have waits : Program.call op rest = request.serve := records
      rw [waits] at threads
      rw [request.serve_eq] at waits
      cases waits
      exact braked.record threads rfl
    · cases ended
  · rw [moved]
    exact braked

theorem Braked.held (braked : Braked strategyId today quota reads) :
    Held strategyId today quota reads := by
  have servedPassed : ∀ thread, served strategyId today thread = true →
      passed strategyId today thread = true := by
    intro ⟨request, program⟩ isServed
    obtain ⟨mine, returned⟩ := Bool.and_eq_true_iff.mp isServed
    refine Bool.and_eq_true_iff.mpr ⟨mine, ?_⟩
    obtain (error | payload) | ⟨op, next⟩ := program
    · cases returned
    · rfl
    · cases returned
  have fewer := Pool.count_mono servedPassed reads
  have within := braked.within
  exact ⟨within, by omega⟩

/-- In every run whose checks all leave room, at most the quota pass the limit and are
served, at every moment. -/
theorem held_of_leavesRoom {table : Table} {earlier : Nat} (nonneg : 0 ≤ quota)
    (counts : Counts table (pk strategyId (todayUtc today)) (hitsAttr "filings") earlier)
    {moves : List (Move FilingsCall)} (same : OneQuota strategyId today quota moves)
    (room : EachStep (Pool.move QuotaOp.apply FilingsCall.program)
      (LeavesRoom strategyId today quota) { state := table } moves) :
    Always (Pool.move QuotaOp.apply FilingsCall.program) (Held strategyId today quota)
      ({ state := table } : Reads) moves := by
  have initial : Braked strategyId today quota { state := table } :=
    { quotas := fun _ member => absurd member List.not_mem_nil
      stages := fun _ member => absurd member List.not_mem_nil
      counter := ⟨earlier, counts, Nat.zero_le earlier⟩
      within := nonneg }
  clear counts
  generalize ({ state := table } : Reads) = reads at initial room ⊢
  induction moves generalizing reads with
  | nil => exact initial.held
  | cons next rest inductionHypothesis =>
      obtain ⟨here, later⟩ := room
      refine ⟨initial.held, inductionHypothesis (fun request member =>
        same request (List.mem_cons_of_mem _ member)) _ (initial.move next here ?_) later⟩
      intro request starts mine
      obtain ⟨sameId, sameDay⟩ := of_decide_eq_true mine
      exact same request (starts ▸ List.mem_cons_self) sameId sameDay

def context : ToolContext := { strategyId := "s1", orgId := "org" }

/-- A read of a filing under a quota of one. -/
def reading : FilingsCall where
  call :=
    { tool := { function := .readFiling, context, dailyQuota := 1 }, argument := "0001"
      env := { now := 0, upper := id, client := .ok (), validate := .ok, answer := .ok "body" } }
  recordedAt := 0
  expiresFrom := 0
  filings := rfl

/-- One call after the other: the second is refused. -/
def inTurn : List (Move FilingsCall) :=
  [.start reading, .advance 0, .advance 0, .start reading, .advance 1]

/-- Both check before either counts itself. -/
def sideBySide : List (Move FilingsCall) :=
  [.start reading, .start reading, .advance 0, .advance 1, .advance 0, .advance 1]

theorem held_inTurn : Always (Pool.move QuotaOp.apply FilingsCall.program) (Held "s1" 0 1)
    ({ state := Dict.empty } : Reads) inTurn :=
  held_of_leavesRoom (by decide) (.inr ⟨by decide +kernel, rfl⟩) (by
    intro request started _ _
    unfold inTurn at started
    simp only [List.mem_cons, Move.start.injEq, reduceCtorEq, List.not_mem_nil, or_false,
      false_or] at started
    rcases started with rfl | rfl <;> rfl) (by decide +kernel)

/-- Two reads are served under a quota of one. -/
theorem not_held_sideBySide :
    let reads := run (Pool.move QuotaOp.apply FilingsCall.program)
      ({ state := Dict.empty } : Reads) sideBySide
    reads.count (served "s1" 0) = 2 ∧ ¬ Held "s1" 0 1 reads := by
  unfold Held
  decide +kernel

end TradingStrands.FilingsBrake
