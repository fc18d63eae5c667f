import TradingStrands.MarketDataStore.MinuteBars

/-!
Owns the market data store where table updates may raise. A minute leaves the
buffer before its two updates: the one that makes the row of its hour and the
one that sets its bar. The first that raises ends the call, and the minutes that
were still to come stay buffered. An update that raises has changed nothing.

Whatever raises, a bar is filed under the hour and the minute of its last tick
(`Filed`), whichever stores write to the table. Nothing reads `last_updated`,
which a row lacks until its first bar is set and has from the start here.
-/

namespace TradingStrands

open TradingStrands.Foundation

namespace MarketDataStore

/-- The update of a minute that raises. -/
inductive WriteFault
  | makeRow (error : PyError)
  | setBar (error : PyError)

/-- Which minutes fail in one call; each is written at most once in it. -/
abbrev Faults : Type := BufferKey → Option WriteFault

/-- What writing some minutes comes to. -/
structure Flushed where
  store : MarketDataStore
  /-- The minutes whose two updates succeeded. -/
  written : List BufferKey := []
  outcome : Except PyError Unit := .ok ()

/-- Make the row of the key's hour, if it is not there. -/
def makeRow (store : MarketDataStore) (key : BufferKey) (now : Int) : MarketDataStore :=
  let pk := hourPk key.symbol key.bucket
  { store with
    table := store.table.set pk ((store.table.get? pk).getD
      { symbol := key.symbol, bucket := key.bucket, ttl := now + store.retentionDays * 86400
        lastUpdated := now }) }

def tryFlushOne (faults : Faults) (now : Int) (store : MarketDataStore) (key : BufferKey) :
    Flushed :=
  let observations := store.buffer.get? key
  let store := { store with buffer := store.buffer.erase key }
  match observations with
  | some (first :: rest) =>
      match faults key with
      | some (.makeRow error) => { store, outcome := .error error }
      | some (.setBar error) => { store := store.makeRow key now, outcome := .error error }
      | none => { store := store.writeBar key (aggregate first rest) now, written := [key] }
  | _ => { store }

/-- Write minutes one after the other, up to the first that raises. -/
def tryFlushAll (faults : Faults) (now : Int) (store : MarketDataStore) : List BufferKey → Flushed
  | [] => { store }
  | key :: rest =>
      let first := tryFlushOne faults now store key
      match first.outcome with
      | .error _ => first
      | .ok () =>
          let later := tryFlushAll faults now first.store rest
          { later with written := first.written ++ later.written }

/-- Put a tick into the buffer. -/
def buffered (store : MarketDataStore) (bar : MarketBar) : MarketDataStore :=
  { store with
    buffer := store.buffer.set (keyOf bar) ((store.buffer.get? (keyOf bar)).getD [] ++ [bar]) }

/-- The buffered minutes of the symbol that are not the current one. -/
def completed (store : MarketDataStore) (current : BufferKey) : List BufferKey :=
  store.buffer.keys.filter fun key =>
    key.symbol = current.symbol ∧ ¬ (key.bucket = current.bucket ∧ key.minute = current.minute)

/-- A call, the clock it reads and the updates that raise in it. -/
inductive Attempt
  | recordTick (bar : MarketBar) (now : Int) (faults : Faults)
  | flush (now : Int) (faults : Faults)

/-- Where a call starts to write, and which minutes it writes. -/
def pending (store : MarketDataStore) : Attempt → MarketDataStore × List BufferKey
  | .recordTick bar _ _ => (store.buffered bar, (store.buffered bar).completed (keyOf bar))
  | .flush _ _ => (store, store.buffer.keys)

def attempt (store : MarketDataStore) : Attempt → Flushed
  | .recordTick bar now faults =>
      tryFlushAll faults now (store.buffered bar) ((store.buffered bar).completed (keyOf bar))
  | .flush now faults => tryFlushAll faults now store store.buffer.keys

/-! ### Calls without faults -/

theorem tryFlushAll_without_faults (now : Int) (store : MarketDataStore) (keys : List BufferKey) :
    (tryFlushAll (fun _ => none) now store keys).store = keys.foldl (flushOne now) store ∧
      (tryFlushAll (fun _ => none) now store keys).outcome = .ok () := by
  induction keys generalizing store with
  | nil => exact ⟨rfl, rfl⟩
  | cons key rest inductionHypothesis =>
      have first : (tryFlushOne (fun _ => none) now store key).store = flushOne now store key ∧
          (tryFlushOne (fun _ => none) now store key).outcome = .ok () := by
        unfold tryFlushOne flushOne
        dsimp only
        cases store.buffer.get? key with
        | none => exact ⟨rfl, rfl⟩
        | some observations => cases observations <;> exact ⟨rfl, rfl⟩
      unfold tryFlushAll
      dsimp only
      rw [first.2, first.1]
      exact inductionHypothesis _

/-- Where nothing raises, the calls are those of the plain store. -/
theorem attempt_without_faults (store : MarketDataStore) (now : Int) :
    (∀ bar, (store.attempt (.recordTick bar now fun _ => none)).store = store.recordTick now bar) ∧
      (store.attempt (.flush now fun _ => none)).store = store.flush now :=
  ⟨fun _ => (tryFlushAll_without_faults now _ _).1, (tryFlushAll_without_faults now _ _).1⟩

/-! ### What the store keeps, whatever raises -/

/-- A buffered minute has ticks, and they are its own. -/
def Keyed (store : MarketDataStore) : Prop :=
  ∀ key observations, store.buffer.get? key = some observations →
    observations ≠ [] ∧ ∀ bar ∈ observations, keyOf bar = key

/-- A bar is in the row of its symbol and of the hour of its last tick, under the
minute of that tick. -/
structure Filed (table : Dict String HourRow) : Prop where
  dated : ∀ pk row, table.get? pk = some row → ∃ moment, row.bucket = hourBucket moment
  keyed : ∀ pk row, table.get? pk = some row → pk = hourPk row.symbol row.bucket
  bars : ∀ pk row, table.get? pk = some row → ∀ minute bar, row.minuteBars.get? minute = some bar →
    hourBucket bar.lastTs = row.bucket ∧ minuteKey bar.lastTs = minute

theorem Keyed.dated {store : MarketDataStore} (keyed : Keyed store) {key : BufferKey}
    {observations : List MarketBar} (held : store.buffer.get? key = some observations) :
    Dated key := by
  obtain ⟨some, own⟩ := keyed key observations held
  obtain ⟨bar, member⟩ := List.exists_mem_of_ne_nil _ some
  rw [← own bar member]
  exact ⟨bar.timestamp, rfl⟩

theorem Keyed.of_subset {store after : MarketDataStore} (keyed : Keyed store)
    (subset : ∀ key observations, after.buffer.get? key = some observations →
      store.buffer.get? key = some observations) : Keyed after :=
  fun key observations held => keyed key observations (subset key observations held)

theorem Keyed.buffered {store : MarketDataStore} (keyed : Keyed store) (bar : MarketBar) :
    Keyed (store.buffered bar) := by
  intro key observations held
  unfold MarketDataStore.buffered at held
  rcases Dict.set_or_get?_of_get?_set held with ⟨rfl, rfl⟩ | before
  · refine ⟨by simp, fun tick member => ?_⟩
    rcases List.mem_append.mp member with earlier | last
    · cases before : store.buffer.get? (keyOf bar) with
      | none => simp [before] at earlier
      | some observations =>
          rw [before] at earlier
          exact (keyed _ _ before).2 tick earlier
    · rw [List.mem_singleton.mp last]
  · exact keyed key observations before

/-- The last tick of an aggregate is one of its ticks. -/
theorem lastTs_aggregate (first : MarketBar) (rest : List MarketBar) :
    ∃ bar ∈ first :: rest, (aggregate first rest).lastTs = bar.timestamp := by
  unfold aggregate
  rw [← List.getLast_eq_getLastD (List.cons_ne_nil first rest)]
  exact ⟨_, List.getLast_mem _, rfl⟩

theorem Filed.empty : Filed Dict.empty := by
  refine ⟨?_, ?_, ?_⟩ <;> intro pk row found <;> simp at found

/-- A row under the key of a dated symbol and hour is that row. -/
theorem Filed.row_eq {table : Dict String HourRow} (filed : Filed table) {key : BufferKey}
    (dated : Dated key) {row : HourRow}
    (found : table.get? (hourPk key.symbol key.bucket) = some row) :
    row.symbol = key.symbol ∧ row.bucket = key.bucket := by
  have pk := filed.keyed _ row found
  obtain ⟨moment, bucket⟩ := filed.dated _ row found
  obtain ⟨keyMoment, keyBucket⟩ := dated
  rw [bucket, keyBucket] at pk ⊢
  obtain ⟨symbols, buckets⟩ := hourPk_inj pk
  exact ⟨symbols.symm, buckets.symm⟩

/-- Setting a row of the key's symbol and hour keeps the filing. -/
theorem Filed.set_row {table : Dict String HourRow} (filed : Filed table) {key : BufferKey}
    (dated : Dated key) {row : HourRow} (symbol : row.symbol = key.symbol)
    (bucket : row.bucket = key.bucket)
    (bars : ∀ minute bar, row.minuteBars.get? minute = some bar →
      hourBucket bar.lastTs = row.bucket ∧ minuteKey bar.lastTs = minute) :
    Filed (table.set (hourPk key.symbol key.bucket) row) := by
  refine ⟨fun pk stored found => ?_, fun pk stored found => ?_, fun pk stored found => ?_⟩
  · rcases Dict.set_or_get?_of_get?_set found with ⟨-, rfl⟩ | earlier
    · rw [bucket]
      exact dated
    · exact filed.dated pk stored earlier
  · rcases Dict.set_or_get?_of_get?_set found with ⟨same, rfl⟩ | earlier
    · rw [same, symbol, bucket]
    · exact filed.keyed pk stored earlier
  · rcases Dict.set_or_get?_of_get?_set found with ⟨-, rfl⟩ | earlier
    · exact bars
    · exact filed.bars pk stored earlier

theorem Filed.makeRow {store : MarketDataStore} (filed : Filed store.table) {key : BufferKey}
    (dated : Dated key) (now : Int) : Filed (store.makeRow key now).table := by
  unfold MarketDataStore.makeRow
  dsimp only
  cases found : store.table.get? (hourPk key.symbol key.bucket) with
  | none =>
      refine filed.set_row dated rfl rfl fun minute bar held => ?_
      simp at held
  | some row =>
      obtain ⟨symbol, bucket⟩ := filed.row_eq dated found
      exact filed.set_row dated symbol bucket (filed.bars _ row found)

theorem Filed.writeBar {store : MarketDataStore} (filed : Filed store.table) {key : BufferKey}
    (dated : Dated key) {bar : StoredBar} (hour : hourBucket bar.lastTs = key.bucket)
    (minute : minuteKey bar.lastTs = key.minute) (now : Int) :
    Filed (store.writeBar key bar now).table := by
  have setMinute : ∀ bars : Dict String StoredBar,
      (∀ other stored, bars.get? other = some stored →
        hourBucket stored.lastTs = key.bucket ∧ minuteKey stored.lastTs = other) →
      ∀ other stored, (bars.set key.minute bar).get? other = some stored →
        hourBucket stored.lastTs = key.bucket ∧ minuteKey stored.lastTs = other := by
    intro bars earlier other stored found
    rcases Dict.set_or_get?_of_get?_set found with ⟨rfl, rfl⟩ | before
    · exact ⟨hour, minute⟩
    · exact earlier other stored before
  unfold MarketDataStore.writeBar
  dsimp only
  cases found : store.table.get? (hourPk key.symbol key.bucket) with
  | none =>
      refine filed.set_row dated rfl rfl (setMinute _ fun other stored held => ?_)
      simp at held
  | some row =>
      obtain ⟨symbol, bucket⟩ := filed.row_eq dated found
      have bars := filed.bars _ row found
      rw [bucket] at bars
      refine filed.set_row dated symbol bucket ?_
      dsimp only [Option.getD_some]
      rw [bucket]
      exact setMinute _ bars

/-- A minute that is written leaves the buffer, whatever its updates do. -/
theorem buffer_tryFlushOne (faults : Faults) (now : Int) (store : MarketDataStore)
    (key : BufferKey) :
    (tryFlushOne faults now store key).store.buffer = store.buffer.erase key := by
  unfold tryFlushOne
  dsimp only
  split
  · split <;> rfl
  · rfl

theorem Keyed.tryFlushOne {store : MarketDataStore} (keyed : Keyed store) (faults : Faults)
    (now : Int) (key : BufferKey) : Keyed (tryFlushOne faults now store key).store := by
  refine keyed.of_subset fun other observations held => ?_
  rw [buffer_tryFlushOne] at held
  by_cases same : other = key
  · rw [same, Dict.get?_erase_self] at held
    cases held
  · rwa [Dict.get?_erase_of_ne _ same] at held

theorem Keyed.tryFlushAll {store : MarketDataStore} (keyed : Keyed store) (faults : Faults)
    (now : Int) (keys : List BufferKey) : Keyed (tryFlushAll faults now store keys).store := by
  induction keys generalizing store with
  | nil => exact keyed
  | cons key rest inductionHypothesis =>
      have next := keyed.tryFlushOne faults now key
      unfold MarketDataStore.tryFlushAll
      dsimp only
      split
      · exact next
      · exact inductionHypothesis next

/-- Every call keeps the buffer in order, whatever the table is. -/
theorem Keyed.attempt {store : MarketDataStore} (keyed : Keyed store) (call : Attempt) :
    Keyed (store.attempt call).store := by
  cases call with
  | recordTick bar now faults => exact (keyed.buffered bar).tryFlushAll faults now _
  | flush now faults => exact keyed.tryFlushAll faults now _

theorem keyed_of_empty {store : MarketDataStore} (empty : store.buffer = Dict.empty) :
    Keyed store := by
  intro key observations held
  rw [empty] at held
  cases held

theorem Filed.tryFlushOne {store : MarketDataStore} (filed : Filed store.table)
    (keyed : Keyed store) (faults : Faults) (now : Int) (key : BufferKey) :
    Filed (tryFlushOne faults now store key).store.table := by
  unfold MarketDataStore.tryFlushOne
  dsimp only
  split
  next first rest held =>
    have dated := keyed.dated held
    obtain ⟨last, member, lastTs⟩ := lastTs_aggregate first rest
    have own := (keyed key _ held).2 last member
    split
    · exact filed
    · exact Filed.makeRow filed dated now
    · refine Filed.writeBar filed dated ?_ ?_ now
      · rw [lastTs, ← own]
        rfl
      · rw [lastTs, ← own]
        rfl
  next => exact filed

theorem Filed.tryFlushAll {store : MarketDataStore} (filed : Filed store.table)
    (keyed : Keyed store) (faults : Faults) (now : Int) (keys : List BufferKey) :
    Filed (tryFlushAll faults now store keys).store.table := by
  induction keys generalizing store with
  | nil => exact filed
  | cons key rest inductionHypothesis =>
      have next := filed.tryFlushOne keyed faults now key
      unfold MarketDataStore.tryFlushAll
      dsimp only
      split
      · exact next
      · exact inductionHypothesis next (keyed.tryFlushOne faults now key)

/-- Every call keeps the filing. -/
theorem Filed.attempt {store : MarketDataStore} (filed : Filed store.table)
    (keyed : Keyed store) (call : Attempt) : Filed (store.attempt call).store.table := by
  cases call with
  | recordTick bar now faults =>
      have started : Filed (store.buffered bar).table := filed
      exact started.tryFlushAll (keyed.buffered bar) faults now _
  | flush now faults => exact filed.tryFlushAll keyed faults now _

end MarketDataStore

/-! ### Several stores on one table -/

/-- The table and the buffer of each process that writes to it. -/
structure Feed (ι : Type) where
  table : Dict String HourRow := Dict.empty
  buffers : ι → Dict BufferKey (List MarketBar) := fun _ => Dict.empty

namespace Feed

open MarketDataStore

variable {ι : Type} [DecidableEq ι]

/-- A process calls its store, or starts anew with an empty buffer. -/
inductive Event (ι : Type)
  | call (writer : ι) (retentionDays : Int) (call : Attempt)
  | restart (writer : ι)

/-- The store of a process. -/
def store (feed : Feed ι) (writer : ι) (retentionDays : Int) : MarketDataStore :=
  { table := feed.table, retentionDays, buffer := feed.buffers writer }

def step (feed : Feed ι) : Event ι → Feed ι
  | .call writer retentionDays call =>
      let after := ((feed.store writer retentionDays).attempt call).store
      { table := after.table, buffers := Function.update feed.buffers writer after.buffer }
  | .restart writer => { feed with buffers := Function.update feed.buffers writer Dict.empty }

/-- The table that a sequence of events leaves. -/
def tableAfter (events : List (Event ι)) : Dict String HourRow := (run step {} events).table

/-- Whichever processes wrote the table, its bars are filed. -/
theorem filed_tableAfter (events : List (Event ι)) : Filed (tableAfter events) := by
  have always : Always step (fun feed : Feed ι =>
      Filed feed.table ∧ ∀ writer, Keyed (feed.store writer 0)) {} events := by
    refine always_of_eachStep step ?_ ?_ (eachStep_true step {} events)
    · intro feed event sound _
      cases event with
      | call writer retentionDays call =>
          have keyed : Keyed (feed.store writer retentionDays) := sound.2 writer
          have filed : Filed (feed.store writer retentionDays).table := sound.1
          refine ⟨filed.attempt keyed call,
            fun other key observations held => ?_⟩
          by_cases same : other = writer
          · subst same
            refine keyed.attempt call key observations ?_
            rw [← held]
            simp [store, step]
          · refine sound.2 other key observations ?_
            rw [← held]
            simp [store, step, same]
      | restart writer =>
          refine ⟨sound.1, fun other key observations held => ?_⟩
          by_cases same : other = writer
          · subst same
            simp [store, step] at held
          · refine sound.2 other key observations ?_
            rw [← held]
            simp [store, step, same]
    · refine ⟨Filed.empty, fun writer key observations held => ?_⟩
      simp [store] at held
  exact always.final.1

end Feed

end TradingStrands
