import TradingStrands.Foundation.Moves
import TradingStrands.ToolQuota.Store

/-!
Owns the calls of the quota store as programs over the table, and what comes of
them when any number interleave. Counting is one atomic operation that answers the
count afterwards, so the calls of a day are numbered, and those with a number
within the limit are granted.

Dates are those of the moment a call reads first; a call reads the clock again for
the row's expiry.
-/

namespace TradingStrands

open TradingStrands.Foundation

/-! ### Operations -/

inductive QuotaOp
  | getItem (key : String)
  | addOne (key name : String) (now : Int)

namespace QuotaOp

/-- Counting answers the new count, or is refused. -/
abbrev Answer : QuotaOp → Type
  | .getItem _ => Option Item
  | .addOne _ _ _ => Except PyError Int

def apply : (op : QuotaOp) → Table → Answer op × Table
  | .getItem key, table => (table.getItem key, table)
  | .addOne key name now, table =>
      match ToolQuotaStore.addOne table key name now with
      | .error error => (.error error, table)
      | .ok (count, after) => (.ok count, after)

theorem apply_addOne (key name : String) (now : Int) (table : Table) :
    apply (.addOne key name now) table =
      match ToolQuotaStore.addOne table key name now with
      | .error error => (.error error, table)
      | .ok (count, after) => (.ok count, after) := rfl

end QuotaOp

abbrev QuotaProgram (α : Type) : Type := Program QuotaOp QuotaOp.Answer ToolError α

namespace ToolQuotaStore

open Program (perform)

/-- A counter of a row, if it is there. -/
def stored (table : Table) (key name : String) : Option Attr :=
  ((table.getItem key).getD []).attr? name

/-- Count one, and go on with the count. -/
def counting (key name : String) (now : Int) : QuotaProgram Int := do
  let counted ← (perform (QuotaOp.addOne key name now) : QuotaProgram (Except PyError Int))
  match counted with
  | .error error => throw (.other error)
  | .ok count => return count

/-- A call of the store. It reads the clock for the day, and again for the expiry. -/
inductive Call
  | reserve (strategyId toolName : String) (limit now later : Int)
  | recordCacheHit (strategyId toolName : String) (now later : Int)

namespace Call

def program : Call → QuotaProgram Unit
  | .reserve strategyId toolName limit now later =>
      if limit ≤ 0 then throw (.quotaExceeded ⟨strategyId, toolName, 0, limit⟩)
      else do
        let consumed ← counting (pk strategyId (todayUtc now)) (consumedAttr toolName) later
        if limit < consumed then throw (.quotaExceeded ⟨strategyId, toolName, consumed, limit⟩)
        else return ()
  | .recordCacheHit strategyId toolName now later => do
      let _ ← counting (pk strategyId (todayUtc now)) (hitsAttr toolName) later
      return ()

/-- A reservation for the strategy and tool on the day of the moment. -/
def reserves (strategyId toolName : String) (today : Int) : Call → Bool
  | .reserve other tool _ now _ => other = strategyId ∧ tool = toolName ∧ utcDay now = utcDay today
  | .recordCacheHit _ _ _ _ => false

end Call

theorem run_counting (table : Table) (key name : String) (now : Int) :
    (counting key name now).run QuotaOp.apply table =
      match addOne table key name now with
      | .error error => (.error (.other error), table)
      | .ok (count, after) => (.ok count, after) := by
  unfold counting
  rw [Program.run_bind, Program.run_perform, QuotaOp.apply_addOne]
  cases addOne table key name now <;> rfl

/-- Undisturbed, the programs are the calls. -/
theorem run_program (table : Table) (strategyId toolName : String) (limit now : Int) :
    (Call.program (.reserve strategyId toolName limit now now)).run QuotaOp.apply table =
        reserve table strategyId toolName limit now ∧
      (Call.program (.recordCacheHit strategyId toolName now now)).run QuotaOp.apply table =
        recordCacheHit table strategyId toolName now := by
  constructor
  · unfold Call.program reserve
    dsimp only
    split
    · rfl
    · rw [Program.run_bind, run_counting]
      cases addOne table (pk strategyId (todayUtc now)) (consumedAttr toolName) now with
      | error error => rfl
      | ok counted =>
          dsimp only
          split <;> rfl
  · unfold Call.program recordCacheHit
    rw [Program.run_bind, run_counting]
    cases addOne table (pk strategyId (todayUtc now)) (hitsAttr toolName) now <;> rfl

/-! ### Counters -/

theorem consumedAttr_inj {left right : String} (same : consumedAttr left = consumedAttr right) :
    left = right := (String.append_left_inj _).mp same

/-- The two kinds of counters end in different letters. -/
theorem hitsAttr_ne_consumedAttr (left right : String) : hitsAttr left ≠ consumedAttr right := by
  intro same
  have last := congrArg (fun name => name.toList.getLast?) same
  unfold hitsAttr consumedAttr at last
  simp [String.toList_append] at last

/-- The row of a counter says whose it is and of which day. -/
theorem pk_todayUtc_inj {left right : String} {now other : Int}
    (same : pk left (todayUtc now) = pk right (todayUtc other)) :
    left = right ∧ utcDay now = utcDay other := by
  have free : ∀ seconds, FreeOf '#' (todayUtc seconds) := isoDate_freeOf (by decide) (by decide)
  obtain ⟨strategies, dates⟩ := joined_inj (by decide) (free now) (free other)
    ((String.append_right_inj _).mp same)
  exact ⟨strategies, isoDate_eq_iff.mp dates⟩

variable {table : Table} {key name : String}

theorem stored_putItem_self (table : Table) (key name : String) (item : Item) :
    stored (table.putItem key item) key name = item.attr? name := by
  unfold stored
  rw [Table.getItem_putItem_self]
  rfl

theorem stored_putItem_of_ne (table : Table) {key other : String} (different : other ≠ key)
    (name : String) (item : Item) :
    stored (table.putItem key item) other name = stored table other name := by
  unfold stored
  rw [Table.getItem_putItem_of_ne table item different]

/-- Counting on another counter leaves this one. -/
theorem stored_addOne_of_ne {otherKey otherName : String} (now : Int)
    (other : key ≠ otherKey ∨ name ≠ otherName) (noTtl : name ≠ "ttl") :
    stored (QuotaOp.apply (.addOne otherKey otherName now) table).2 key name =
      stored table key name := by
  rw [QuotaOp.apply_addOne]
  cases counted : addOne table otherKey otherName now with
  | error error => rfl
  | ok result =>
      obtain ⟨count, after⟩ := result
      dsimp only
      rw [(addOne_ok counted).2]
      by_cases row : key = otherKey
      · subst row
        have different : name ≠ otherName := other.resolve_left (not_not_intro rfl)
        rw [stored_putItem_self, Item.attr?_setIfAbsent_of_ne _ _ noTtl,
          Item.attr?_setAttr_of_ne _ _ different]
        rfl
      · rw [stored_putItem_of_ne table row]

/-- The counter has the number, or is not there yet. -/
def Counts (table : Table) (key name : String) (count : Nat) : Prop :=
  stored table key name = some (.number count) ∨ stored table key name = none ∧ count = 0

/-- Counting answers the next number, and leaves it. -/
theorem Counts.apply_addOne {count : Nat} (counts : Counts table key name count) (now : Int)
    (noTtl : name ≠ "ttl") :
    (QuotaOp.apply (.addOne key name now) table).1 = .ok (count + 1 : Int) ∧
      Counts (QuotaOp.apply (.addOne key name now) table).2 key name (count + 1) := by
  have counted : ∃ after, addOne table key name now = .ok ((count + 1 : Int), after) := by
    unfold addOne
    dsimp only
    rcases counts with present | ⟨missing, rfl⟩
    · rw [show ((table.getItem key).getD []).attr? name = some (.number count) from present]
      exact ⟨_, rfl⟩
    · rw [show ((table.getItem key).getD []).attr? name = none from missing]
      exact ⟨_, rfl⟩
  obtain ⟨after, counted⟩ := counted
  rw [QuotaOp.apply_addOne, counted]
  refine ⟨rfl, .inl ?_⟩
  dsimp only
  rw [(addOne_ok counted).2, stored_putItem_self, Item.attr?_setIfAbsent_of_ne _ _ noTtl,
    Item.attr?_setAttr_self]
  rfl

/-! ### Calls under way -/

/-- What follows the answer of counting. -/
def counted : Except ToolError (Except PyError Int) → QuotaProgram Int
  | .error error => throw error
  | .ok (.error error) => throw (.other error)
  | .ok (.ok count) => return count

theorem counting_eq (key name : String) (now : Int) :
    counting key name now = .call (.addOne key name now) counted := by
  unfold counting
  show Program.call _ _ = Program.call _ _
  congr 1
  funext answer
  obtain error | (error | count) := answer <;> rfl

namespace Call

/-- The limit of a reservation. -/
def limit : Call → Int
  | .reserve _ _ limit _ _ => limit
  | .recordCacheHit _ _ _ _ => 0

/-- What is decided on the count. -/
def decide (strategyId toolName : String) (limit consumed : Int) : QuotaProgram Unit :=
  if limit < consumed then throw (.quotaExceeded ⟨strategyId, toolName, consumed, limit⟩)
  else return ()

theorem program_reserve {strategyId toolName : String} {limit now later : Int}
    (positive : 1 ≤ limit) : program (.reserve strategyId toolName limit now later) =
      .call (.addOne (pk strategyId (todayUtc now)) (consumedAttr toolName) later)
        fun answer => counted answer >>= decide strategyId toolName limit := by
  unfold program
  dsimp only
  rw [if_neg (by omega), counting_eq]
  rfl

theorem program_recordCacheHit (strategyId toolName : String) (now later : Int) :
    program (.recordCacheHit strategyId toolName now later) =
      .call (.addOne (pk strategyId (todayUtc now)) (hitsAttr toolName) later)
        fun answer => counted answer >>= fun _ => pure () := by
  unfold program
  dsimp only
  rw [counting_eq]
  rfl

/-- After its one operation a call has come to its end. -/
theorem ended_counted {next : Int → QuotaProgram Unit} (ends : ∀ count, (next count).ended = true)
    (answer : Except ToolError (Except PyError Int)) :
    Program.ended (counted answer >>= next) = true := by
  obtain error | (error | count) := answer
  · rfl
  · rfl
  · exact ends count

theorem ended_decide (strategyId toolName : String) (limit consumed : Int) :
    (decide strategyId toolName limit consumed).ended = true := by
  unfold decide
  split <;> rfl

theorem returned_decide (strategyId toolName : String) (limit consumed : Int) :
    (decide strategyId toolName limit consumed).returned = Decidable.decide (consumed ≤ limit) := by
  unfold decide
  split
  · exact (decide_eq_false (by omega)).symm
  · exact (decide_eq_true (by omega)).symm

/-- A decision grants, or refuses because the quota is used up. -/
theorem decide_cases (strategyId toolName : String) (limit consumed : Int) :
    decide strategyId toolName limit consumed = .done (.ok ()) ∨
      ∃ used, decide strategyId toolName limit consumed =
        .done (.error (.quotaExceeded ⟨strategyId, toolName, used, limit⟩)) := by
  unfold decide
  split
  · exact .inr ⟨_, rfl⟩
  · exact .inl rfl

/-- The operation of a call, and that it ends the call. -/
theorem program_call {call : Call} {op : QuotaOp}
    {next : Except ToolError op.Answer → QuotaProgram Unit} (same : .call op next = call.program) :
    (∀ answer, (next answer).ended = true) ∧
      ((∃ strategyId toolName limit now later,
          call = .reserve strategyId toolName limit now later ∧
          op = .addOne (pk strategyId (todayUtc now)) (consumedAttr toolName) later) ∨
        ∃ strategyId toolName now later, call = .recordCacheHit strategyId toolName now later ∧
          op = .addOne (pk strategyId (todayUtc now)) (hitsAttr toolName) later) := by
  cases call with
  | reserve strategyId toolName limit now later =>
      by_cases positive : 1 ≤ limit
      · rw [program_reserve positive] at same
        cases same
        exact ⟨ended_counted (ended_decide strategyId toolName limit),
          .inl ⟨strategyId, toolName, limit, now, later, rfl, rfl⟩⟩
      · unfold program at same
        dsimp only at same
        rw [if_pos (by omega)] at same
        cases same
  | recordCacheHit strategyId toolName now later =>
      rw [program_recordCacheHit] at same
      cases same
      exact ⟨ended_counted fun _ => rfl, .inr ⟨strategyId, toolName, now, later, rfl, rfl⟩⟩

/-- A call that is no such reservation leaves the counter of the reservations. -/
theorem stored_apply_of_other {call : Call} {op : QuotaOp}
    {next : Except ToolError op.Answer → QuotaProgram Unit} (same : .call op next = call.program)
    {strategyId toolName : String} {today : Int} {table : Table}
    (other : call.reserves strategyId toolName today = false) :
    stored (op.apply table).2 (pk strategyId (todayUtc today)) (consumedAttr toolName) =
      stored table (pk strategyId (todayUtc today)) (consumedAttr toolName) := by
  rcases (program_call same).2 with ⟨otherId, otherTool, bound, now, later, rfl, rfl⟩ |
    ⟨otherId, otherTool, now, later, rfl, rfl⟩
  · refine stored_addOne_of_ne later ?_ (consumedAttr_ne_ttl toolName)
    by_contra same
    rw [not_or, not_not, not_not] at same
    obtain ⟨strategies, days⟩ := pk_todayUtc_inj same.1
    have own : reserves strategyId toolName today
        (.reserve otherId otherTool bound now later) = true :=
      decide_eq_true ⟨strategies.symm, (consumedAttr_inj same.2).symm, days.symm⟩
    rw [other] at own
    cases own
  · exact stored_addOne_of_ne later (.inr (hitsAttr_ne_consumedAttr _ _).symm)
      (consumedAttr_ne_ttl toolName)

end Call

abbrev Calls : Type := Pool QuotaOp QuotaOp.Answer ToolError Unit Table Call

namespace Calls

variable (strategyId toolName : String) (today limit : Int)

abbrev CallThread : Type := Thread QuotaOp QuotaOp.Answer ToolError Unit Call

/-- The thread is a reservation that has come to its end. -/
def answered (thread : CallThread) : Bool :=
  thread.request.reserves strategyId toolName today && thread.program.ended

/-- The thread is a reservation that has been granted. -/
def granted (thread : CallThread) : Bool :=
  thread.request.reserves strategyId toolName today && thread.program.returned

/-- The reservation has been granted, or refused because the quota is used up. -/
def Decided (thread : CallThread) : Prop :=
  thread.program = .done (.ok ()) ∨
    ∃ consumed, thread.program =
      .done (.error (.quotaExceeded ⟨strategyId, toolName, consumed, limit⟩))

/-- The counter of the reservations is the number of those that have been answered,
and the first ones up to the limit have been granted. -/
structure Numbered (calls : Calls) : Prop where
  limits : ∀ thread ∈ calls.threads, thread.request.reserves strategyId toolName today = true →
    thread.request.limit = limit
  untouched : ∀ thread ∈ calls.threads, thread.program.ended = false →
    thread.program = thread.request.program
  counts : Counts calls.state (pk strategyId (todayUtc today)) (consumedAttr toolName)
    (calls.count (answered strategyId toolName today))
  first : (calls.count (granted strategyId toolName today) : Int) =
    min (calls.count (answered strategyId toolName today) : Int) limit
  decided : ∀ thread ∈ calls.threads, answered strategyId toolName today thread = true →
    Decided strategyId toolName limit thread

variable {strategyId toolName today limit}

theorem answered_of_own {call : Call} (own : call.reserves strategyId toolName today = true)
    (program : QuotaProgram Unit) :
    answered strategyId toolName today ⟨call, program⟩ = program.ended := by
  unfold answered
  rw [own, Bool.true_and]

theorem granted_of_own {call : Call} (own : call.reserves strategyId toolName today = true)
    (program : QuotaProgram Unit) :
    granted strategyId toolName today ⟨call, program⟩ = program.returned := by
  unfold granted
  rw [own, Bool.true_and]

theorem granted_eq_false {thread : CallThread}
    (waiting : answered strategyId toolName today thread = false) :
    granted strategyId toolName today thread = false := by
  obtain ⟨call, program⟩ := thread
  unfold answered granted at *
  cases program with
  | call => exact Bool.and_false _
  | done outcome =>
      rw [show Program.ended (.done outcome : QuotaProgram Unit) = true from rfl,
        Bool.and_true] at waiting
      rw [waiting, Bool.false_and]

/-- A call that has only started is not answered. -/
theorem not_ended_program (positive : 1 ≤ limit) {call : Call}
    (own : call.reserves strategyId toolName today = true) (same : call.limit = limit) :
    call.program.ended = false := by
  cases call with
  | reserve other tool bound now later =>
      have bounded : bound = limit := same
      rw [Call.program_reserve (by omega)]
      rfl
  | recordCacheHit => cases own

theorem Numbered.start {calls : Calls} (numbered : Numbered strategyId toolName today limit calls)
    (positive : 1 ≤ limit) (call : Call)
    (same : call.reserves strategyId toolName today = true → call.limit = limit) :
    Numbered strategyId toolName today limit
      { calls with threads := calls.threads ++ [⟨call, call.program⟩] } := by
  have waiting : call.reserves strategyId toolName today = true → call.program.ended = false :=
    fun own => not_ended_program positive own (same own)
  have notAnswered : answered strategyId toolName today ⟨call, call.program⟩ = false := by
    unfold answered
    rw [Bool.and_eq_false_iff]
    exact ((Bool.eq_false_or_eq_true _).imp_left waiting).symm
  have notGranted := granted_eq_false notAnswered
  refine ⟨Pool.forall_start numbered.limits same, Pool.forall_start numbered.untouched fun _ => rfl,
    ?_, ?_, Pool.forall_start numbered.decided fun done => ?_⟩
  · rw [Pool.count_start, notAnswered]
    exact numbered.counts
  · rw [Pool.count_start, Pool.count_start, notAnswered, notGranted]
    exact numbered.first
  · rw [notAnswered] at done
    cases done

/-- A call that is no such reservation goes on. -/
theorem Numbered.advance_other {calls : Calls}
    (numbered : Numbered strategyId toolName today limit calls)
    {before after : List CallThread} {call : Call} {op : QuotaOp}
    {next : Except ToolError op.Answer → QuotaProgram Unit}
    (threads : calls.threads = before ++ ⟨call, .call op next⟩ :: after)
    (other : call.reserves strategyId toolName today = false) :
    Numbered strategyId toolName today limit
      { state := (op.apply calls.state).2
        threads := before ++ ⟨call, next (.ok (op.apply calls.state).1)⟩ :: after } := by
  have member : (⟨call, .call op next⟩ : CallThread) ∈ calls.threads := by
    rw [threads]
    exact List.mem_append_cons_self
  have waits := numbered.untouched _ member rfl
  have ends := (Call.program_call waits).1
  have notAnswered : ∀ program, answered strategyId toolName today ⟨call, program⟩ = false := by
    intro program
    unfold answered
    rw [other, Bool.false_and]
  have notGranted : ∀ program, granted strategyId toolName today ⟨call, program⟩ = false :=
    fun program => granted_eq_false (notAnswered program)
  have sameAnswered := (notAnswered (next (.ok (op.apply calls.state).1))).trans
    (notAnswered (.call op next)).symm
  have sameGranted := (notGranted (next (.ok (op.apply calls.state).1))).trans
    (notGranted (.call op next)).symm
  refine ⟨Pool.forall_advance threads numbered.limits fun own => ?_,
    Pool.forall_advance threads numbered.untouched fun running => ?_, ?_, ?_,
    Pool.forall_advance threads numbered.decided fun done => ?_⟩
  · rw [other] at own
    cases own
  · rw [ends] at running
    cases running
  · rw [Pool.count_advance_of_eq threads sameAnswered]
    unfold Counts
    rw [Call.stored_apply_of_other waits other]
    exact numbered.counts
  · rw [Pool.count_advance_of_eq threads sameAnswered,
      Pool.count_advance_of_eq threads sameGranted]
    exact numbered.first
  · rw [notAnswered] at done
    cases done

/-- A reservation gets the next number, and is granted if it is within the limit. -/
theorem Numbered.advance_own {calls : Calls}
    (numbered : Numbered strategyId toolName today limit calls) (positive : 1 ≤ limit)
    {before after : List CallThread} {call : Call} {op : QuotaOp}
    {next : Except ToolError op.Answer → QuotaProgram Unit}
    (threads : calls.threads = before ++ ⟨call, .call op next⟩ :: after)
    (own : call.reserves strategyId toolName today = true) :
    Numbered strategyId toolName today limit
      { state := (op.apply calls.state).2
        threads := before ++ ⟨call, next (.ok (op.apply calls.state).1)⟩ :: after } := by
  have member : (⟨call, .call op next⟩ : CallThread) ∈ calls.threads := by
    rw [threads]
    exact List.mem_append_cons_self
  have bounded := numbered.limits _ member own
  have waits := numbered.untouched _ member rfl
  cases call with
  | recordCacheHit => cases own
  | reserve otherId otherTool bound now later =>
      obtain ⟨sameId, sameTool, sameDay⟩ := of_decide_eq_true own
      have sameLimit : bound = limit := bounded
      have date : todayUtc now = todayUtc today := isoDate_eq_iff.mpr sameDay
      subst sameId sameTool sameLimit
      rw [Call.program_reserve positive, date] at waits
      cases waits
      obtain ⟨answer, counts⟩ := numbered.counts.apply_addOne later (consumedAttr_ne_ttl otherTool)
      rw [answer]
      generalize (QuotaOp.apply (.addOne _ _ later) calls.state).2 = table at counts ⊢
      let answeredCall : CallThread := ⟨.reserve otherId otherTool bound now later,
        Call.decide otherId otherTool bound
          (calls.count (answered otherId otherTool today) + 1 : Int)⟩
      show Numbered otherId otherTool today bound
        { state := table, threads := before ++ answeredCall :: after }
      have ends : answeredCall.program.ended = true := Call.ended_decide _ _ _ _
      have within := Pool.count_advance threads (granted otherId otherTool today) table answeredCall
      rw [granted_of_own own, granted_of_own own, Call.returned_decide] at within
      simp only [decide_eq_true_eq] at within
      have raised : Pool.count (answered otherId otherTool today)
          { state := table, threads := before ++ answeredCall :: after } =
            calls.count (answered otherId otherTool today) + 1 :=
        Pool.count_advance_of_new threads (answered_of_own own _)
          ((answered_of_own own _).trans ends) table
      have rest : Pool.count (granted otherId otherTool today)
          { state := table, threads := before ++ answeredCall :: after } =
            calls.count (granted otherId otherTool today) + if (calls.count
              (answered otherId otherTool today) + 1 : Int) ≤ bound then 1 else 0 := within
      have first := numbered.first
      refine ⟨Pool.forall_advance threads numbered.limits fun _ => rfl,
        Pool.forall_advance threads numbered.untouched fun running => ?_, ?_, ?_,
        Pool.forall_advance threads numbered.decided fun _ => ?_⟩
      · rw [ends] at running
        cases running
      · rw [raised]
        exact counts
      · rw [raised, rest]
        split <;> omega
      · exact Call.decide_cases _ _ _ _

theorem Numbered.move {calls : Calls} (numbered : Numbered strategyId toolName today limit calls)
    (positive : 1 ≤ limit) (next : Move Call)
    (same : ∀ call, next = .start call → call.reserves strategyId toolName today = true →
      call.limit = limit) :
    Numbered strategyId toolName today limit (calls.move QuotaOp.apply Call.program next) := by
  rcases @Pool.move_cases _ _ _ _ _ _ QuotaOp.apply Call.program calls next with
    ⟨call, starts, moved⟩ | ⟨_, before, call, op, rest, after, _, _, threads, moved⟩ | moved
  · rw [moved]
    exact numbered.start positive call (same call starts)
  · rw [moved]
    cases own : call.reserves strategyId toolName today with
    | false => exact numbered.advance_other threads own
    | true => exact numbered.advance_own positive threads own
  · rw [moved]
    exact numbered

/-- The reservations have one limit. -/
def OneLimit (strategyId toolName : String) (today limit : Int) (moves : List (Move Call)) : Prop :=
  ∀ call, Move.start call ∈ moves → call.reserves strategyId toolName today = true →
    call.limit = limit

theorem Numbered.run {moves : List (Move Call)} (positive : 1 ≤ limit)
    (same : OneLimit strategyId toolName today limit moves) {calls : Calls}
    (numbered : Numbered strategyId toolName today limit calls) :
    Numbered strategyId toolName today limit
      (Foundation.run (Pool.move QuotaOp.apply Call.program) calls moves) := by
  induction moves generalizing calls with
  | nil => exact numbered
  | cons next rest inductionHypothesis =>
      refine inductionHypothesis (fun call member => same call (List.mem_cons_of_mem _ member)) ?_
      exact numbered.move positive next fun call starts => same call (starts ▸ List.mem_cons_self)

/-- A reservation of the day. -/
def isOwn (strategyId toolName : String) (today : Int) (thread : CallThread) : Bool :=
  thread.request.reserves strategyId toolName today

/-- Whatever calls interleave, of the reservations that have been answered exactly
the limit, or all if they are fewer, have been granted, and the others are refused
because the quota is used up; once all have ended this is so of all of them. -/
theorem granted_exactly {table : Table} (moves : List (Move Call)) (positive : 1 ≤ limit)
    (fresh : stored table (pk strategyId (todayUtc today)) (consumedAttr toolName) = none)
    (same : OneLimit strategyId toolName today limit moves) :
    let calls : Calls :=
      Foundation.run (Pool.move QuotaOp.apply Call.program) { state := table } moves
    ((calls.count (granted strategyId toolName today) : Int) =
          min (calls.count (answered strategyId toolName today) : Int) limit ∧
        ∀ thread ∈ calls.threads, answered strategyId toolName today thread = true →
          Decided strategyId toolName limit thread) ∧
      ((∀ thread ∈ calls.threads, isOwn strategyId toolName today thread = true →
          thread.program.ended = true) →
        (calls.count (granted strategyId toolName today) : Int) =
          min (calls.count (isOwn strategyId toolName today) : Int) limit) := by
  have initial : Numbered strategyId toolName today limit { state := table } :=
    { limits := nofun, untouched := nofun, counts := .inr ⟨fresh, rfl⟩, decided := nofun
      first := by
        show (0 : Int) = min 0 limit
        omega }
  have numbered := initial.run positive same
  refine ⟨⟨numbered.first, numbered.decided⟩, fun complete => ?_⟩
  rw [numbered.first]
  congr 2
  refine List.countP_congr fun thread member => ?_
  unfold answered
  rw [Bool.and_eq_true]
  exact ⟨And.left, fun own => ⟨own, complete thread member own⟩⟩

def reservation : Call := .reserve "s1" "news" 2 0 0

/-- Three reservations against a limit of two, with a cache hit among them. -/
theorem granted_exactly_two :
    let moves := [.start reservation, .start reservation, .start reservation,
      .start (.recordCacheHit "s1" "news" 0 0), .advance 2, .advance 3, .advance 0, .advance 1]
    let calls : Calls :=
      Foundation.run (Pool.move QuotaOp.apply Call.program) { state := Dict.empty } moves
    ((calls.count (granted "s1" "news" 0) : Int) =
          min (calls.count (answered "s1" "news" 0) : Int) 2 ∧
        ∀ thread ∈ calls.threads, answered "s1" "news" 0 thread = true →
          Decided "s1" "news" 2 thread) ∧
      ((∀ thread ∈ calls.threads, isOwn "s1" "news" 0 thread = true →
          thread.program.ended = true) →
        (calls.count (granted "s1" "news" 0) : Int) =
          min (calls.count (isOwn "s1" "news" 0) : Int) 2) :=
  granted_exactly _ (by decide) (by decide +kernel) (by
    intro call started own
    simp only [List.mem_cons, Move.start.injEq, reduceCtorEq, List.not_mem_nil,
      or_false] at started
    rcases started with rfl | rfl | rfl | rfl
    · rfl
    · rfl
    · rfl
    · cases own)

end Calls

end ToolQuotaStore

end TradingStrands
