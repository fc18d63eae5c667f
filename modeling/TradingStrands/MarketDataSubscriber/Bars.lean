import TradingStrands.MarketData.StoreProvider
import TradingStrands.MarketDataSubscriber.Loop

/-!
Proves which bars the subscriber leaves, as long as no table update raises. Every
cycle records at most one tick of a symbol and then flushes, so a minute's bar is
made of one tick alone: the last one that was recorded in it. Quotes that fail and
polls that end early change nothing of this.

So a reader of the store gets the last polled price, if that is not too old.
-/

namespace TradingStrands.MarketDataSubscriber

open TradingStrands.Foundation MarketDataStore

/-- A tick and the clock of the store when it is recorded. -/
abbrev Recorded : Type := MarketBar × Int

/-- The ticks of a poll in which no update raises. -/
def polledTicks (polls : String → SymbolPoll) : List String → List Recorded
  | [] => []
  | symbol :: rest =>
      match (polls symbol).quote with
      | .raises _ | .missing => polledTicks polls rest
      | .unreadable _ => []
      | .price price =>
          ({ timestamp := (polls symbol).timestamp, symbol, price }, (polls symbol).storeClock) ::
            polledTicks polls rest

/-- No table update of the cycle raises. -/
structure Cycle.Unfailing (cycle : Cycle) : Prop where
  polls : ∀ symbol, (cycle.polls symbol).faults = fun _ => none
  flush : cycle.flushFaults = fun _ => none

theorem sublist_polledTicks (polls : String → SymbolPoll) (symbols : List String) :
    ((polledTicks polls symbols).map (·.1.symbol)).Sublist symbols := by
  induction symbols with
  | nil => exact List.Sublist.slnil
  | cons symbol rest inductionHypothesis =>
      unfold polledTicks
      cases (polls symbol).quote with
      | raises error => exact inductionHypothesis.cons symbol
      | missing => exact inductionHypothesis.cons symbol
      | unreadable error => exact List.nil_sublist _
      | price price => exact inductionHypothesis.cons_cons symbol

/-- The plain calls of some ticks. -/
def recordCalls (ticks : List Recorded) : List MarketDataStore.Call :=
  ticks.map fun tick => .recordTick tick.1 tick.2

/-- A plain call as an attempt in which nothing raises. -/
def plainAttempt : MarketDataStore.Call → Attempt
  | .recordTick bar now => .recordTick bar now fun _ => none
  | .flush now => .flush now fun _ => none

theorem store_plainAttempt (store : MarketDataStore) (call : MarketDataStore.Call) :
    (store.attempt (plainAttempt call)).store = step store call := by
  cases call with
  | recordTick bar now => exact (attempt_without_faults store now).1 bar
  | flush now => exact (attempt_without_faults store now).2

theorem run_plainAttempt (store : MarketDataStore) (calls : List MarketDataStore.Call) :
    run attemptStore store (calls.map plainAttempt) =
      run step store calls := by
  unfold run
  rw [List.foldl_map]
  congr 1
  funext store call
  exact store_plainAttempt store call

theorem recordsOf_unfailing {polls : String → SymbolPoll}
    (unfailing : ∀ symbol, (polls symbol).faults = fun _ => none) (symbols : List String)
    (store : MarketDataStore) :
    recordsOf polls symbols store = (recordCalls (polledTicks polls symbols)).map plainAttempt := by
  induction symbols generalizing store with
  | nil => rfl
  | cons symbol rest inductionHypothesis =>
      unfold recordsOf polledTicks
      cases quote : (polls symbol).quote with
      | raises error => exact inductionHypothesis store
      | missing => exact inductionHypothesis store
      | unreadable error => rfl
      | price price =>
          have call : (polls symbol).record symbol price =
              plainAttempt (.recordTick
                { timestamp := (polls symbol).timestamp, symbol, price } (polls symbol).storeClock) := by
            unfold SymbolPoll.record plainAttempt
            rw [unfailing]
          have succeeds : (store.attempt ((polls symbol).record symbol price)).outcome = .ok () := by
            rw [call]
            exact (tryFlushAll_without_faults _ _ _).2
          dsimp only
          rw [succeeds, inductionHypothesis, call]
          rfl

/-! ### The cycles as calls -/

/-- The ticks of a cycle and the clock of its flush. -/
abbrev Block : Type := List Recorded × Int

def Block.calls (block : Block) : List MarketDataStore.Call := recordCalls block.1 ++ [.flush block.2]

section Running

variable (upper : String → String) (agentId : String) (refreshInterval : ℚ)

/-- The symbols that a cycle polls. -/
def polledSymbols (subscriber : Subscriber) (cycle : Cycle) : Finset String :=
  (refresh upper refreshInterval (beatCycle agentId subscriber cycle) cycle).symbols

def blockOf (subscriber : Subscriber) (cycle : Cycle) : Block :=
  (polledTicks cycle.polls (inOrder (polledSymbols upper agentId refreshInterval subscriber cycle)),
    cycle.flushClock)

def blocksOfRun : Subscriber → List Cycle → List Block :=
  outputs (cycleStep upper agentId refreshInterval) fun subscriber cycle =>
    [blockOf upper agentId refreshInterval subscriber cycle]

/-- All ticks that are recorded, in order. -/
def ticksOfRun (subscriber : Subscriber) (cycles : List Cycle) : List MarketBar :=
  (blocksOfRun upper agentId refreshInterval subscriber cycles).flatMap fun block =>
    block.1.map Prod.fst

theorem callsOfRun_unfailing (subscriber : Subscriber) {cycles : List Cycle}
    (unfailing : ∀ cycle ∈ cycles, cycle.Unfailing) :
    callsOfRun upper agentId refreshInterval subscriber cycles =
      ((blocksOfRun upper agentId refreshInterval subscriber cycles).flatMap Block.calls).map
        plainAttempt := by
  induction cycles generalizing subscriber with
  | nil => rfl
  | cons cycle rest inductionHypothesis =>
      obtain ⟨polls, flush⟩ := unfailing cycle List.mem_cons_self
      unfold callsOfRun blocksOfRun at *
      rw [outputs_cons, inductionHypothesis _ fun other member =>
        unfailing other (List.mem_cons_of_mem cycle member), outputs_cons, List.flatMap_append,
        List.map_append]
      congr 1
      rw [List.flatMap_singleton]
      unfold callsOf blockOf Block.calls polledSymbols
      rw [recordsOf_unfailing polls, flush, List.map_append]
      rfl

/-- Within a block no two ticks are of one symbol. -/
theorem nodup_blocksOfRun (subscriber : Subscriber) (cycles : List Cycle) :
    ∀ block ∈ blocksOfRun upper agentId refreshInterval subscriber cycles,
      (block.1.map (·.1.symbol)).Nodup := by
  refine forall_mem_outputs _ (fun state cycle block member => ?_) subscriber cycles
  rw [List.mem_singleton.mp member]
  exact (nodup_inOrder (polledSymbols upper agentId refreshInterval state cycle)).sublist
    (sublist_polledTicks cycle.polls _)

end Running

/-! ### One minute of the store -/

/-- The ticks of a symbol and a minute. -/
def inMinute (symbol : String) (minute : Int) (ticks : List MarketBar) : List MarketBar :=
  ticks.filter fun tick => tick.symbol = symbol ∧ minuteOf tick.timestamp = minute

theorem itemsOf_recordCalls (symbol : String) (minute : Int) (ticks : List Recorded) :
    Grouping.itemsOf ((recordCalls ticks).map (signalOf symbol minute)) =
      inMinute symbol minute (ticks.map Prod.fst) := by
  rw [itemsOf_signals]
  induction ticks with
  | nil => rfl
  | cons tick rest inductionHypothesis =>
      have split : ticksOf symbol minute (recordCalls (tick :: rest)) =
          (if tick.1.symbol = symbol ∧ minuteOf tick.1.timestamp = minute then [tick.1] else []) ++
            ticksOf symbol minute (recordCalls rest) := by
        unfold ticksOf recordCalls
        rw [List.map_cons, List.filterMap_cons]
        dsimp only
        split_ifs <;> rfl
      rw [split, inductionHypothesis]
      unfold inMinute
      rw [List.map_cons, List.filter_cons]
      by_cases own : tick.1.symbol = symbol ∧ minuteOf tick.1.timestamp = minute
      · rw [if_pos own, if_pos (decide_eq_true own)]
        rfl
      · rw [if_neg own, if_neg fun holds => own (of_decide_eq_true holds)]
        rfl

theorem length_inMinute_le (symbol : String) (minute : Int) {ticks : List Recorded}
    (nodup : (ticks.map (·.1.symbol)).Nodup) :
    (inMinute symbol minute (ticks.map Prod.fst)).length ≤ 1 := by
  have distinct : ((inMinute symbol minute (ticks.map Prod.fst)).map (·.symbol)).Nodup := by
    refine List.Nodup.sublist (List.filter_sublist.map _) ?_
    rw [List.map_map]
    exact nodup
  have same : (inMinute symbol minute (ticks.map Prod.fst)).map (·.symbol) =
      List.replicate (inMinute symbol minute (ticks.map Prod.fst)).length symbol := by
    rw [List.eq_replicate_iff, List.length_map]
    refine ⟨rfl, fun other member => ?_⟩
    obtain ⟨tick, inTicks, rfl⟩ := List.mem_map.mp member
    exact (of_decide_eq_true (List.mem_filter.mp inTicks).2).1
  rw [same] at distinct
  exact List.nodup_replicate.mp distinct

/-- One block makes the tick of a minute its bar, if there is one. -/
theorem after_block (symbol : String) (minute : Int) {block : Block}
    (nodup : (block.1.map (·.1.symbol)).Nodup) {grouping : Grouping MarketBar}
    (idle : grouping.pending = []) :
    (block.calls.map (signalOf symbol minute)).foldl Grouping.step grouping =
      { last := if inMinute symbol minute (block.1.map Prod.fst) = [] then grouping.last
          else inMinute symbol minute (block.1.map Prod.fst) } := by
  have lone := length_inMinute_le symbol minute nodup
  rw [← itemsOf_recordCalls] at lone ⊢
  unfold Block.calls
  rw [List.map_append, List.foldl_append]
  exact Grouping.close_foldl_of_lone lone idle

/-- After whole blocks the group of a minute is its last tick. -/
theorem after_blocks (symbol : String) (minute : Int) {blocks : List Block}
    (nodup : ∀ block ∈ blocks, (block.1.map (·.1.symbol)).Nodup) :
    Grouping.after ((blocks.flatMap Block.calls).map (signalOf symbol minute)) =
      { last := (inMinute symbol minute
          (blocks.flatMap fun block => block.1.map Prod.fst)).getLast?.toList } := by
  induction blocks using List.reverseRecOn with
  | nil => rfl
  | append_singleton blocks block inductionHypothesis =>
      have before := inductionHypothesis fun other member => nodup other (by simp [member])
      have here := nodup block (by simp)
      have lone := length_inMinute_le symbol minute here
      unfold Grouping.after at before ⊢
      rw [List.flatMap_append, List.map_append, List.foldl_append, before, List.flatMap_singleton,
        after_block symbol minute here rfl, List.flatMap_append, List.flatMap_singleton]
      unfold inMinute at lone ⊢
      rw [List.filter_append, List.getLast?_append]
      cases ticks : (block.1.map Prod.fst).filter fun tick =>
          tick.symbol = symbol ∧ minuteOf tick.timestamp = minute with
      | nil => rfl
      | cons tick rest =>
          rw [ticks] at lone
          have alone : rest = [] := List.length_eq_zero_iff.mp (by
            rw [List.length_cons] at lone
            omega)
          rw [alone, if_neg (List.cons_ne_nil _ _)]
          rfl

/-! ### All cycles -/

section Cycles

variable (upper : String → String) (agentId : String) (refreshInterval : ℚ)
  {subscriber : Subscriber} {cycles : List Cycle}

theorem store_run_unfailing (unfailing : ∀ cycle ∈ cycles, cycle.Unfailing) :
    (run (cycleStep upper agentId refreshInterval) subscriber cycles).store =
      run step subscriber.store
        ((blocksOfRun upper agentId refreshInterval subscriber cycles).flatMap Block.calls) := by
  rw [store_run, callsOfRun_unfailing upper agentId refreshInterval subscriber unfailing,
    run_plainAttempt]

/-- The bar of a minute follows the ticks that were recorded in it. -/
theorem storedBar_cycles (unfailing : ∀ cycle ∈ cycles, cycle.Unfailing)
    (empty : subscriber.store.buffer = Dict.empty) (symbol : String) (minute : Int) :
    (run (cycleStep upper agentId refreshInterval) subscriber cycles).store.storedBar symbol
        minute =
      (inMinute symbol minute
          (ticksOfRun upper agentId refreshInterval subscriber cycles)).getLast?.elim
        (subscriber.store.storedBar symbol minute) fun tick => some (aggregate tick []) := by
  rw [store_run_unfailing upper agentId refreshInterval unfailing]
  obtain ⟨-, holds⟩ := slot_run empty symbol minute
    ((blocksOfRun upper agentId refreshInterval subscriber cycles).flatMap Block.calls)
  rw [after_blocks symbol minute
    (nodup_blocksOfRun upper agentId refreshInterval subscriber cycles)] at holds
  refine (congrArg Slot.bar holds).trans ?_
  unfold slotOf ticksOfRun
  dsimp only
  cases (inMinute symbol minute _).getLast? <;> rfl

/-- After any cycles in which no table update raises, the bar of a minute is that of
the one tick that was recorded last in it; a minute without a tick keeps the bar it
had. -/
theorem storedBar_run (unfailing : ∀ cycle ∈ cycles, cycle.Unfailing)
    (empty : subscriber.store.buffer = Dict.empty) (symbol : String) (minute : Int) :
    (run (cycleStep upper agentId refreshInterval) subscriber cycles).store.storedBar symbol
        minute =
      match (inMinute symbol minute
          (ticksOfRun upper agentId refreshInterval subscriber cycles)).getLast? with
      | some tick => some (aggregate tick [])
      | none => subscriber.store.storedBar symbol minute := by
  rw [storedBar_cycles upper agentId refreshInterval unfailing empty]
  cases (inMinute symbol minute _).getLast? <;> rfl

/-! ### What a reader of the store gets -/

theorem retentionDays_attempt (store : MarketDataStore) (call : Attempt) :
    (store.attempt call).store.retentionDays = store.retentionDays := by
  have flushed : ∀ faults now keys (store : MarketDataStore),
      (tryFlushAll faults now store keys).store.retentionDays = store.retentionDays := by
    intro faults now keys
    induction keys with
    | nil => exact fun _ => rfl
    | cons key rest inductionHypothesis =>
        intro store
        have one : (tryFlushOne faults now store key).store.retentionDays =
            store.retentionDays := by
          unfold tryFlushOne
          dsimp only
          split
          · split <;> rfl
          · rfl
        unfold tryFlushAll
        dsimp only
        split
        · exact one
        · exact (inductionHypothesis _).trans one
  cases call with
  | recordTick bar now faults => exact flushed _ _ _ _
  | flush now faults => exact flushed _ _ _ _

/-- The events of one process that makes the calls. -/
def feedOf (calls : List Attempt) : List (Feed.Event Unit) :=
  calls.map fun call => .call () 90 call

/-- The table after the calls is that of the process that makes them. -/
theorem tableAfter_feedOf (calls : List Attempt) :
    Feed.tableAfter (feedOf calls) =
      (run attemptStore {} calls).table := by
  have together : ∀ (feed : Feed Unit) (store : MarketDataStore), feed.store () 90 = store →
      (run Feed.step feed (feedOf calls)).table = (run attemptStore store calls).table := by
    induction calls with
    | nil =>
        rintro feed _ rfl
        rfl
    | cons call rest inductionHypothesis =>
        rintro feed _ rfl
        refine inductionHypothesis _ _ ?_
        have same : ∀ after : MarketDataStore, after.retentionDays = 90 →
            (⟨after.table, 90, Function.update feed.buffers () after.buffer ()⟩ :
              MarketDataStore) = after := by
          rintro ⟨_, _, _⟩ rfl
          rw [Function.update_self]
        exact same _ (retentionDays_attempt (feed.store () 90) call)
  exact together {} {} rfl

/-- The ticks of a symbol that were recorded. -/
def ticksFor (symbol : String) (subscriber : Subscriber) (cycles : List Cycle) : List MarketBar :=
  (ticksOfRun upper agentId refreshInterval subscriber cycles).filter fun tick =>
    tick.symbol = symbol

theorem inMinute_eq (symbol : String) (minute : Int) (ticks : List MarketBar) :
    inMinute symbol minute ticks =
      (ticks.filter fun tick => tick.symbol = symbol).filter fun tick =>
        minuteOf tick.timestamp = minute := by
  unfold inMinute
  rw [List.filter_filter]
  refine List.filter_congr fun tick _ => ?_
  rw [Bool.decide_and, Bool.and_comm]

theorem table_run_eq (cycles : List Cycle) :
    (run (cycleStep upper agentId refreshInterval) {} cycles).store.table =
      Feed.tableAfter (feedOf (callsOfRun upper agentId refreshInterval {} cycles)) := by
  rw [tableAfter_feedOf, store_run]

theorem filed_run (cycles : List Cycle) :
    Filed (run (cycleStep upper agentId refreshInterval) {} cycles).store.table := by
  rw [table_run_eq]
  exact Feed.filed_tableAfter _

/-- Of the bars of a symbol each is that of one of its ticks, and its last tick has
one. -/
theorem mem_storedBars_run (unfailing : ∀ cycle ∈ cycles, cycle.Unfailing) (symbol : String) :
    let table := (run (cycleStep upper agentId refreshInterval) {} cycles).store.table
    (∀ bar ∈ storedBars table symbol,
        ∃ tick ∈ ticksFor upper agentId refreshInterval symbol {} cycles, bar = aggregate tick []) ∧
      ∀ last, (ticksFor upper agentId refreshInterval symbol {} cycles).getLast? = some last →
        aggregate last [] ∈ storedBars table symbol := by
  intro table
  have filed : Filed table := filed_run upper agentId refreshInterval cycles
  have minutes : ∀ bar, bar ∈ storedBars table symbol ↔
      (run (cycleStep upper agentId refreshInterval) {} cycles).store.storedBar symbol
        (minuteOf bar.lastTs) = some bar := by
    intro bar
    have start : minuteOf (60 * minuteOf bar.lastTs) = minuteOf bar.lastTs := by
      unfold minuteOf
      omega
    obtain ⟨bucket, minute⟩ := minuteOf_eq_iff.mp start
    rw [Filed.mem_storedBars_iff filed]
    unfold storedBar
    rw [bucket, minute]
  constructor
  · intro bar stored
    have found := (minutes bar).mp stored
    rw [storedBar_cycles upper agentId refreshInterval unfailing rfl] at found
    cases last : (inMinute symbol (minuteOf bar.lastTs)
        (ticksOfRun upper agentId refreshInterval {} cycles)).getLast? with
    | none =>
        rw [last] at found
        cases found
    | some tick =>
        rw [last] at found
        have member := List.mem_of_getLast? last
        rw [inMinute_eq] at member
        exact ⟨tick, (List.mem_filter.mp member).1, (Option.some.inj found).symm⟩
  · intro last isLast
    obtain ⟨before, ticks⟩ := List.getLast?_eq_some_iff.mp isLast
    refine (minutes _).mpr ?_
    have own : (inMinute symbol (minuteOf (aggregate last []).lastTs)
        (ticksOfRun upper agentId refreshInterval {} cycles)).getLast? = some last := by
      rw [inMinute_eq]
      show ((ticksFor upper agentId refreshInterval symbol {} cycles).filter _).getLast? = _
      rw [ticks, List.filter_append, List.filter_singleton]
      have here : decide (minuteOf last.timestamp = minuteOf (aggregate last []).lastTs) = true :=
        decide_eq_true rfl
      rw [here, cond_true, List.getLast?_concat]
    rw [storedBar_cycles upper agentId refreshInterval unfailing rfl, own]
    rfl

/-- Where its clocks do not run back, a bar of the symbol that no other one is later than
is that of the tick polled last. -/
theorem newest_storedBar (unfailing : ∀ cycle ∈ cycles, cycle.Unfailing) {symbol : String}
    (clocks : (ticksFor upper agentId refreshInterval symbol {} cycles).Pairwise fun left right =>
      left.timestamp ≤ right.timestamp) {last : MarketBar}
    (polled : (ticksFor upper agentId refreshInterval symbol {} cycles).getLast? = some last)
    {bar : StoredBar} (stored : bar ∈ storedBars
      (run (cycleStep upper agentId refreshInterval) {} cycles).store.table symbol)
    (notBefore : last.timestamp ≤ bar.lastTs) : bar = aggregate last [] := by
  obtain ⟨fromTicks, lastStored⟩ :=
    mem_storedBars_run upper agentId refreshInterval unfailing symbol
  have filed := filed_run upper agentId refreshInterval cycles
  obtain ⟨tick, inTicks, rfl⟩ := fromTicks bar stored
  have atMost : tick.timestamp ≤ last.timestamp := by
    obtain ⟨before, ticks⟩ := List.getLast?_eq_some_iff.mp polled
    rw [ticks] at clocks inTicks
    rcases List.mem_append.mp inTicks with earlier | here
    · exact (List.pairwise_append.mp clocks).2.2 tick earlier last List.mem_cons_self
    · rw [List.mem_singleton.mp here]
  -- no two stored bars of a symbol have one last tick
  have same : (aggregate tick []).lastTs = (aggregate last []).lastTs := le_antisymm atMost notBefore
  have tickHeld := (Filed.mem_storedBars_iff filed).mp stored
  rw [same, (Filed.mem_storedBars_iff filed).mp (lastStored last polled)] at tickHeld
  exact (Option.some.inj tickHeld).symm

/-- After any cycles in which no table update raises, of a symbol whose clocks do not
run back: the price that the store gives a reader is the last one that was polled,
and it gives it exactly while that is not too old. -/
theorem readFreshFromStore_run (unfailing : ∀ cycle ∈ cycles, cycle.Unfailing)
    {symbol : String} {now staleness : ℚ} (short : staleness < 3600)
    (clocks : (ticksFor upper agentId refreshInterval symbol {} cycles).Pairwise fun left right =>
      left.timestamp ≤ right.timestamp)
    (past : ∀ tick ∈ ticksFor upper agentId refreshInterval symbol {} cycles,
      tick.timestamp ≤ now)
    {last : MarketBar}
    (polled : (ticksFor upper agentId refreshInterval symbol {} cycles).getLast? = some last)
    (afterEpoch : 0 < last.timestamp)
    (getQuote : Symbol → Except PyError Quote) :
    let provider := StoreBackedMarketDataProvider.ofStore
      (run (cycleStep upper agentId refreshInterval) {} cycles).store getQuote now staleness
    (∀ price, provider.readFreshFromStore symbol = .ok (some price) →
        price = .finite last.price) ∧
      (provider.readFreshFromStore symbol = .ok (some (.finite last.price)) ↔
        now - last.timestamp ≤ staleness) := by
  intro provider
  obtain ⟨fromTicks, lastStored⟩ :=
    mem_storedBars_run upper agentId refreshInterval unfailing symbol
  have stored := lastStored last polled
  obtain ⟨bars, hour, inHour, covers⟩ := StoreBackedMarketDataProvider.hourBars_ofStore
    (filed_run upper agentId refreshInterval cycles) getQuote staleness fun bar member => by
      obtain ⟨tick, inTicks, rfl⟩ := fromTicks bar member
      exact past tick inTicks
  have newest : ∀ bar ∈ bars, last.timestamp ≤ bar.lastTs → bar = aggregate last [] :=
    fun bar member => newest_storedBar upper agentId refreshInterval unfailing clocks polled
      (inHour bar member).1
  have only : ∀ price, provider.readFreshFromStore symbol = .ok (some price) →
      price = .finite last.price ∧ now - last.timestamp ≤ staleness := by
    intro price found
    obtain ⟨bar, inBars, best, fresh, rfl⟩ :=
      (StoreBackedMarketDataProvider.readFreshFromStore_ofStore_iff hour).mp found
    obtain ⟨greatest, -, same, atLeast⟩ := StoreBackedMarketDataProvider.newest?_map_barRead best
    have lastTs : bar.lastTs = greatest.lastTs := congrArg BarRead.moment same
    have notBefore : last.timestamp ≤ bar.lastTs := by
      rcases (inHour bar inBars).2 _ stored with here | older
      · exact (atLeast _ here).trans lastTs.ge
      · exact older.le
    obtain rfl := newest bar inBars notBefore
    exact ⟨rfl, fresh⟩
  refine ⟨fun price found => (only price found).1, fun found => (only _ found).2, fun fresh => ?_⟩
  obtain ⟨later, member, le⟩ := covers _ stored (lt_of_le_of_lt fresh short)
  obtain rfl := newest later member le
  have read : StoreBackedMarketDataProvider.barRead (aggregate last []) ∈
      bars.map StoreBackedMarketDataProvider.barRead := List.mem_map_of_mem member
  obtain ⟨moment, best⟩ := StoreBackedMarketDataProvider.exists_newest read afterEpoch
  obtain ⟨greatest, inBars, rfl, atLeast⟩ := StoreBackedMarketDataProvider.newest?_map_barRead best
  obtain rfl := newest greatest inBars (atLeast _ member)
  exact (StoreBackedMarketDataProvider.readFreshFromStore_ofStore_iff hour).mpr
    ⟨_, inBars, best, fresh, rfl⟩

end Cycles

/-- A cycle in which an index is quoted. -/
def quotedCycle (monotonic : ℚ) (timestamp : Int) (price : Decimal) : Cycle where
  beat := none
  monotonic
  strategies := .ok [{ strategyId := "s1", orgId := "o1", authorUserId := "u1", name := "Index"
                       markdown := "", symbols := ["SPY"], createdAt := 0, updatedAt := 0 }]
  polls := fun _ =>
    { quote := .price price, timestamp, storeClock := timestamp, faults := fun _ => none }
  flushClock := timestamp
  flushFaults := fun _ => none

/-- Two cycles of one minute. -/
def quotedCycles : List Cycle :=
  [quotedCycle 100 1777213985 500, quotedCycle 105 1777213990 501]

theorem unfailing_quotedCycles : ∀ cycle ∈ quotedCycles, cycle.Unfailing := by
  intro cycle member
  simp only [quotedCycles, List.mem_cons, List.not_mem_nil, or_false] at member
  rcases member with rfl | rfl <;> exact ⟨fun _ => rfl, rfl⟩

/-- The bar of the minute has one sample, the second. -/
theorem storedBar_run_second_tick :
    (run (cycleStep id "marketdata-subscriber" 60) {} quotedCycles).store.storedBar "SPY"
        (minuteOf 1777213985) =
      some (aggregate { timestamp := 1777213990, symbol := "SPY", price := 501 } []) := by
  rw [storedBar_run id "marketdata-subscriber" 60 unfailing_quotedCycles rfl]
  decide +kernel

/-- Two minutes later the store still gives it. -/
theorem readFreshFromStore_run_second_tick :
    (StoreBackedMarketDataProvider.ofStore
      (run (cycleStep id "marketdata-subscriber" 60) {} quotedCycles).store
      (fun _ => .error (.external "")) 1777214110 120).readFreshFromStore "SPY" =
        .ok (some (.finite 501)) :=
  (readFreshFromStore_run id "marketdata-subscriber" 60 unfailing_quotedCycles (by norm_num)
    (by decide +kernel) (by decide +kernel)
    (show _ = some { timestamp := 1777213990, symbol := "SPY", price := 501 } by decide +kernel)
    (by decide) _).2.mpr (by norm_num)

end TradingStrands.MarketDataSubscriber
