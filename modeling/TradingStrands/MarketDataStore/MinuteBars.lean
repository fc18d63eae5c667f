import TradingStrands.Foundation.DelimitedKey
import TradingStrands.Foundation.Grouping
import TradingStrands.Foundation.Runs
import TradingStrands.MarketDataStore.Store

/-!
Proves when the stored bar of a minute is the bar of all its ticks. For one
symbol and minute the store is a group that collects ticks: a flush, and a tick
of another minute of the symbol, close it, and a closed group is written over
the bar before. So the bars are right exactly when nothing closes a minute
between two of its ticks, and the volumes of a minute do not outgrow the digits of
the decimal context.
-/

namespace TradingStrands.MarketDataStore

open TradingStrands.Foundation

/-! ### The keys of minutes -/

/-- The minutes since 1970. -/
def minuteOf (timestamp : Int) : Int := timestamp / 60

theorem hourBucket_toList (timestamp : Int) :
    (hourBucket timestamp).toList =
      paddedInt 4 (gmtime timestamp).year ++ paddedDigits 2 (gmtime timestamp).month ++
        paddedDigits 2 (gmtime timestamp).day ++ paddedDigits 2 (gmtime timestamp).hour :=
  String.toList_ofList

/-- The fields that two equal buckets have in common. -/
theorem hourBucket_inj {left right : Int} (same : hourBucket left = hourBucket right) :
    (gmtime left).year = (gmtime right).year ∧ (gmtime left).month = (gmtime right).month ∧
      (gmtime left).day = (gmtime right).day ∧ (gmtime left).hour = (gmtime right).hour := by
  have lists := congrArg String.toList same
  rw [hourBucket_toList, hourBucket_toList] at lists
  obtain ⟨leftMonth, leftDay, leftHour, -, -⟩ := gmtime_fields left
  obtain ⟨rightMonth, rightDay, rightHour, -, -⟩ := gmtime_fields right
  have two : ∀ {number other : Nat}, number < 100 → other < 100 →
      (paddedDigits 2 number).length = (paddedDigits 2 other).length := by
    intro number other small less
    rw [length_paddedDigits (by decide) small, length_paddedDigits (by decide) less]
  obtain ⟨lists, hour⟩ := List.append_inj' lists (two leftHour rightHour)
  obtain ⟨lists, day⟩ := List.append_inj' lists (two leftDay rightDay)
  obtain ⟨year, month⟩ := List.append_inj' lists (two leftMonth rightMonth)
  exact ⟨paddedInt_inj year, paddedDigits_inj month, paddedDigits_inj day, paddedDigits_inj hour⟩

/-- A bucket and a minute key name one minute. -/
theorem minuteOf_eq_iff {left right : Int} :
    minuteOf left = minuteOf right ↔
      hourBucket left = hourBucket right ∧ minuteKey left = minuteKey right := by
  have read : ∀ timestamp, timestamp = 60 * minuteOf timestamp + (gmtime timestamp).second := by
    intro timestamp
    unfold minuteOf gmtime
    dsimp only
    omega
  constructor
  · intro same
    have fields : ∀ timestamp, gmtime timestamp =
        { gmtime (60 * minuteOf timestamp) with second := (gmtime timestamp).second } := by
      intro timestamp
      have day : timestamp / 86400 = 60 * minuteOf timestamp / 86400 := by
        unfold minuteOf
        omega
      have hour : (timestamp % 86400).toNat / 3600 =
          (60 * minuteOf timestamp % 86400).toNat / 3600 := by
        unfold minuteOf
        omega
      have minute : (timestamp % 86400).toNat % 3600 / 60 =
          (60 * minuteOf timestamp % 86400).toNat % 3600 / 60 := by
        unfold minuteOf
        omega
      unfold gmtime
      dsimp only
      rw [day, hour, minute]
    unfold hourBucket minuteKey
    rw [fields left, fields right, same]
    exact ⟨rfl, rfl⟩
  · rintro ⟨buckets, minutes⟩
    obtain ⟨year, month, day, hour⟩ := hourBucket_inj buckets
    have minute : (gmtime left).minute = (gmtime right).minute :=
      paddedDigits_inj (String.ofList_injective minutes)
    have leftSeconds := secondsOf_gmtime left
    have rightSeconds := secondsOf_gmtime right
    unfold secondsOf at leftSeconds rightSeconds
    rw [year, month, day, hour, minute] at leftSeconds
    have leftRead := read left
    have rightRead := read right
    dsimp only at leftSeconds rightSeconds
    omega

theorem hash_notMem_hourBucket (timestamp : Int) : '#' ∉ (hourBucket timestamp).toList := by
  have digits : ∀ {width number : Nat}, '#' ∉ paddedDigits width number := fun member =>
    absurd (isDigit_of_mem_paddedDigits member) (by decide)
  rw [hourBucket_toList]
  simp only [List.mem_append, not_or]
  refine ⟨⟨⟨fun member => ?_, digits⟩, digits⟩, digits⟩
  rcases mem_paddedInt member with sign | digit
  · exact absurd sign (by decide)
  · exact absurd digit (by decide)

theorem hourPk_inj {symbol other : String} {timestamp moment : Int}
    (same : hourPk symbol (hourBucket timestamp) = hourPk other (hourBucket moment)) :
    symbol = other ∧ hourBucket timestamp = hourBucket moment := by
  have lists := congrArg String.toList same
  have mark : "#".toList = ['#'] := rfl
  simp only [hourPk, String.toList_append, mark, List.append_assoc, List.singleton_append,
    List.append_cancel_left_eq] at lists
  obtain ⟨symbols, buckets⟩ := delimited_inj (hash_notMem_hourBucket moment)
    (hash_notMem_hourBucket timestamp) lists
  exact ⟨String.toList_inj.mp (List.cons.inj symbols).2, String.toList_inj.mp buckets⟩

/-! ### One minute of the store -/

/-- The bucket of the key is that of some moment. -/
def Dated (key : BufferKey) : Prop := ∃ timestamp, key.bucket = hourBucket timestamp

/-- What the store holds for one key: the buffered ticks and the written bar. -/
structure Slot where
  observations : Option (List MarketBar)
  bar : Option StoredBar

def Slot.flushed (slot : Slot) : Slot :=
  match slot.observations with
  | some (first :: rest) => ⟨none, some (aggregate first rest)⟩
  | _ => ⟨none, slot.bar⟩

def slot (store : MarketDataStore) (key : BufferKey) : Slot :=
  ⟨store.buffer.get? key, (store.getHour key.symbol key.bucket).get? key.minute⟩

theorem getHour_writeBar {store : MarketDataStore} {key other : BufferKey} (dated : Dated key)
    (otherDated : Dated other) (bar : StoredBar) (now : Int) :
    ((store.writeBar key bar now).getHour other.symbol other.bucket).get? other.minute =
      if other = key then some bar
      else (store.getHour other.symbol other.bucket).get? other.minute := by
  obtain ⟨moment, isBucket⟩ := dated
  obtain ⟨otherMoment, isOther⟩ := otherDated
  obtain ⟨symbol, bucket, minute⟩ := key
  obtain ⟨otherSymbol, otherBucket, otherMinute⟩ := other
  obtain rfl : bucket = _ := isBucket
  obtain rfl : otherBucket = _ := isOther
  unfold writeBar getHour
  dsimp only
  rw [Dict.get?_set]
  by_cases row : hourPk otherSymbol (hourBucket otherMoment) = hourPk symbol (hourBucket moment)
  · obtain ⟨rfl, buckets⟩ := hourPk_inj row
    rw [if_pos row, buckets]
    dsimp only
    rw [Dict.get?_set]
    by_cases same : otherMinute = minute
    · rw [if_pos same, if_pos (by rw [same])]
    · rw [if_neg same, if_neg fun keys => same (BufferKey.mk.inj keys).2.2]
      cases store.table.get? (hourPk otherSymbol (hourBucket moment)) <;> rfl
  · rw [if_neg row, if_neg]
    intro keys
    obtain ⟨symbols, buckets, -⟩ := BufferKey.mk.inj keys
    exact row (by rw [symbols, buckets])

theorem slot_flushOne {store : MarketDataStore} {key other : BufferKey} (dated : Dated key)
    (otherDated : Dated other) (now : Int) :
    slot (flushOne now store key) other =
      if other = key then (slot store other).flushed else slot store other := by
  have erased : (store.buffer.erase key).get? other =
      if other = key then none else store.buffer.get? other := by
    by_cases same : other = key
    · rw [if_pos same, same, Dict.get?_erase_self]
    · rw [if_neg same, Dict.get?_erase_of_ne _ same]
  unfold flushOne slot Slot.flushed
  dsimp only
  cases held : store.buffer.get? key with
  | none =>
      dsimp only
      rw [erased]
      split
      next same => rw [same, held]; rfl
      next => rfl
  | some observations =>
      cases observations with
      | nil =>
          dsimp only
          rw [erased]
          split
          next same => rw [same, held]; rfl
          next => rfl
      | cons first rest =>
          dsimp only
          rw [getHour_writeBar dated otherDated]
          show Slot.mk ((store.buffer.erase key).get? other) _ = _
          rw [erased]
          split
          next same => rw [same, held]
          next => rfl

theorem flushed_flushed (slot : Slot) : slot.flushed.flushed = slot.flushed := by
  obtain ⟨observations, bar⟩ := slot
  cases observations with
  | none => rfl
  | some observations => cases observations <;> rfl

theorem flushed_of_none {slot : Slot} (empty : slot.observations = none) : slot.flushed = slot := by
  obtain ⟨_, bar⟩ := slot
  obtain rfl : _ = none := empty
  rfl

/-- Flushing some minutes flushes each of them and leaves the others. -/
theorem slot_flushAll {store : MarketDataStore} {keys : List BufferKey} {other : BufferKey}
    (dated : ∀ key ∈ keys, Dated key) (otherDated : Dated other) (now : Int) :
    slot (keys.foldl (flushOne now) store) other =
      if other ∈ keys then (slot store other).flushed else slot store other := by
  induction keys generalizing store with
  | nil => simp
  | cons key rest inductionHypothesis =>
      rw [List.foldl_cons, inductionHypothesis fun later member =>
        dated later (List.mem_cons_of_mem key member),
        slot_flushOne (dated key List.mem_cons_self) otherDated]
      by_cases same : other = key
      · rw [if_pos same, flushed_flushed, ite_self, if_pos (by rw [same]; exact List.mem_cons_self)]
      · rw [if_neg same]
        simp [same]

/-! ### A minute as a group -/

/-- The key of a symbol and a minute. -/
def minuteSlot (symbol : String) (minute : Int) : BufferKey :=
  ⟨symbol, hourBucket (60 * minute), minuteKey (60 * minute)⟩

theorem dated_minuteSlot (symbol : String) (minute : Int) : Dated (minuteSlot symbol minute) :=
  ⟨_, rfl⟩

theorem keyOf_eq_iff {bar : MarketBar} {symbol : String} {minute : Int} :
    keyOf bar = minuteSlot symbol minute ↔
      bar.symbol = symbol ∧ minuteOf bar.timestamp = minute := by
  have start : minuteOf (60 * minute) = minute := by
    unfold minuteOf
    omega
  unfold keyOf minuteSlot
  rw [BufferKey.mk.injEq, ← minuteOf_eq_iff, start]

/-- What a call is to the group of a symbol and a minute. -/
def signalOf (symbol : String) (minute : Int) : Call → Signal MarketBar
  | .recordTick bar _ =>
      if bar.symbol ≠ symbol then .pass
      else if minuteOf bar.timestamp = minute then .item bar
      else .close
  | .flush _ => .close

def barOf (initial : Option StoredBar) : List MarketBar → Option StoredBar
  | [] => initial
  | first :: rest => some (aggregate first rest)

/-- The slot of a group, over the bar that was stored before. -/
def slotOf (initial : Option StoredBar) (grouping : Grouping MarketBar) : Slot :=
  ⟨if grouping.pending = [] then none else some grouping.pending, barOf initial grouping.last⟩

theorem slotOf_close (initial : Option StoredBar) (grouping : Grouping MarketBar) :
    slotOf initial grouping.close = (slotOf initial grouping).flushed := by
  obtain ⟨pending, last⟩ := grouping
  cases pending <;> rfl

/-- Every buffered key is that of a moment. -/
def AllDated (store : MarketDataStore) : Prop := ∀ key ∈ store.buffer.keys, Dated key

theorem keys_flushOne_subset {store : MarketDataStore} {key other : BufferKey} {now : Int}
    (member : other ∈ (flushOne now store key).buffer.keys) : other ∈ store.buffer.keys := by
  have erased : (flushOne now store key).buffer = store.buffer.erase key := by
    unfold flushOne
    dsimp only
    split <;> rfl
  rw [erased, Dict.mem_keys_erase_iff] at member
  exact member.2

theorem keys_flushAll_subset {store : MarketDataStore} {keys : List BufferKey} {other : BufferKey}
    {now : Int} (member : other ∈ (keys.foldl (flushOne now) store).buffer.keys) :
    other ∈ store.buffer.keys := by
  induction keys generalizing store with
  | nil => exact member
  | cons key rest inductionHypothesis => exact keys_flushOne_subset (inductionHypothesis member)

theorem AllDated.buffered {store : MarketDataStore} (dated : AllDated store) (bar : MarketBar)
    (observations : List MarketBar) :
    AllDated { store with buffer := store.buffer.set (keyOf bar) observations } := by
  intro key member
  rcases Dict.mem_keys_set_iff.mp member with rfl | earlier
  · exact ⟨bar.timestamp, rfl⟩
  · exact dated key earlier

theorem AllDated.step {store : MarketDataStore} (dated : AllDated store) (call : Call) :
    AllDated (step store call) := by
  cases call with
  | recordTick bar now =>
      exact fun key member => dated.buffered bar _ key (keys_flushAll_subset member)
  | flush now => exact fun key member => dated key (keys_flushAll_subset member)

theorem observations_of_notMem {store : MarketDataStore} {key : BufferKey}
    (absent : key ∉ store.buffer.keys) : (slot store key).observations = none :=
  Dict.get?_eq_none_iff.mpr absent

theorem slot_flush {store : MarketDataStore} (dated : AllDated store) (now : Int) (symbol : String)
    (minute : Int) :
    slot (store.flush now) (minuteSlot symbol minute) =
      (slot store (minuteSlot symbol minute)).flushed := by
  unfold flush
  rw [slot_flushAll dated (dated_minuteSlot symbol minute)]
  split
  · rfl
  next absent => rw [flushed_of_none (observations_of_notMem absent)]

theorem slot_flushCompletedMinutes {store : MarketDataStore} (dated : AllDated store) (now : Int)
    (current : BufferKey) (symbol : String) (minute : Int) :
    slot (flushCompletedMinutes now store current) (minuteSlot symbol minute) =
      if symbol = current.symbol ∧ minuteSlot symbol minute ≠ current then
        (slot store (minuteSlot symbol minute)).flushed
      else slot store (minuteSlot symbol minute) := by
  have completed : ∀ key ∈ store.buffer.keys.filter (fun key =>
      key.symbol = current.symbol ∧ ¬ (key.bucket = current.bucket ∧ key.minute = current.minute)),
      Dated key := fun key member => dated key (List.mem_filter.mp member).1
  have other : (symbol = current.symbol ∧ minuteSlot symbol minute ≠ current) ↔
      symbol = current.symbol ∧
        ¬ ((minuteSlot symbol minute).bucket = current.bucket ∧
          (minuteSlot symbol minute).minute = current.minute) := by
    refine and_congr_right fun same => not_congr ?_
    obtain ⟨currentSymbol, bucket, minuteText⟩ := current
    unfold minuteSlot
    rw [BufferKey.mk.injEq]
    exact and_iff_right same
  unfold flushCompletedMinutes
  rw [slot_flushAll completed (dated_minuteSlot symbol minute)]
  simp only [List.mem_filter, decide_eq_true_eq, other]
  by_cases buffered : minuteSlot symbol minute ∈ store.buffer.keys
  · simp only [buffered, true_and]
    rfl
  · rw [if_neg fun both => buffered both.1, flushed_of_none (observations_of_notMem buffered),
      ite_self]

/-- One call does to a minute of the store what its signal does to the group. -/
theorem slot_step {store : MarketDataStore} (dated : AllDated store) {symbol : String} {minute : Int}
    {initial : Option StoredBar} {grouping : Grouping MarketBar}
    (holds : slot store (minuteSlot symbol minute) = slotOf initial grouping) (call : Call) :
    slot (step store call) (minuteSlot symbol minute) =
      slotOf initial (grouping.step (signalOf symbol minute call)) := by
  cases call with
  | flush now =>
      show slot (store.flush now) _ = slotOf initial grouping.close
      rw [slot_flush dated, holds, slotOf_close]
  | recordTick bar now =>
      show slot (flushCompletedMinutes now _ (keyOf bar)) _ = _
      rw [slot_flushCompletedMinutes (dated.buffered bar _)]
      have here : keyOf bar = minuteSlot symbol minute ↔
          bar.symbol = symbol ∧ minuteOf bar.timestamp = minute := keyOf_eq_iff
      have kept : minuteSlot symbol minute ≠ keyOf bar → ∀ observations,
          slot { store with buffer := store.buffer.set (keyOf bar) observations }
            (minuteSlot symbol minute) = slot store (minuteSlot symbol minute) := by
        intro different observations
        unfold slot
        rw [Dict.get?_set_of_ne _ _ different]
        rfl
      by_cases sameSymbol : bar.symbol = symbol
      · by_cases sameMinute : minuteOf bar.timestamp = minute
        · have key := here.mpr ⟨sameSymbol, sameMinute⟩
          have signal : signalOf symbol minute (.recordTick bar now) = .item bar :=
            (if_neg (not_not.mpr sameSymbol)).trans (if_pos sameMinute)
          have observed : (store.buffer.get? (minuteSlot symbol minute)).getD [] =
              grouping.pending := by
            have buffered : store.buffer.get? (minuteSlot symbol minute) =
                if grouping.pending = [] then none else some grouping.pending :=
              congrArg Slot.observations holds
            rw [buffered]
            split
            next none => exact none.symm
            next => rfl
          have stored : (store.getHour (minuteSlot symbol minute).symbol
              (minuteSlot symbol minute).bucket).get? (minuteSlot symbol minute).minute =
                barOf initial grouping.last := congrArg Slot.bar holds
          rw [if_neg fun both => both.2 key.symm, signal, key, observed]
          unfold slot
          rw [Dict.get?_set_self]
          show Slot.mk _ ((store.getHour _ _).get? _) = _
          rw [stored, slotOf, if_neg (by simp [Grouping.step])]
          rfl
        · have key : minuteSlot symbol minute ≠ keyOf bar :=
            fun same => sameMinute (here.mp same.symm).2
          have signal : signalOf symbol minute (.recordTick bar now) = .close :=
            (if_neg (not_not.mpr sameSymbol)).trans (if_neg sameMinute)
          rw [if_pos ⟨sameSymbol.symm, key⟩, kept key, signal, holds, ← slotOf_close]
          rfl
      · have key : minuteSlot symbol minute ≠ keyOf bar :=
          fun same => sameSymbol (here.mp same.symm).1
        have signal : signalOf symbol minute (.recordTick bar now) = .pass := if_pos sameSymbol
        rw [if_neg fun both => sameSymbol both.1.symm, kept key, signal, holds]
        rfl

/-! ### All calls -/

/-- The ticks of a symbol and a minute, in the order they were recorded. -/
def ticksOf (symbol : String) (minute : Int) (calls : List Call) : List MarketBar :=
  calls.filterMap fun
    | .recordTick bar _ =>
        if bar.symbol = symbol ∧ minuteOf bar.timestamp = minute then some bar else none
    | .flush _ => none

theorem exists_recordTick_of_mem_ticksOf {symbol : String} {minute : Int} {calls : List Call}
    {tick : MarketBar} (member : tick ∈ ticksOf symbol minute calls) :
    ∃ now, .recordTick tick now ∈ calls := by
  obtain ⟨call, inside, taken⟩ := List.mem_filterMap.mp member
  cases call with
  | flush now => cases taken
  | recordTick bar now =>
      dsimp only at taken
      split_ifs at taken
      exact ⟨now, Option.some.inj taken ▸ inside⟩

/-- The stored bar of a symbol and a minute. -/
def storedBar (store : MarketDataStore) (symbol : String) (minute : Int) : Option StoredBar :=
  (store.getHour symbol (hourBucket (60 * minute))).get? (minuteKey (60 * minute))

/-- Every symbol and minute with a tick has a stored bar, of all its ticks. -/
def AggregatesAll (store : MarketDataStore) (calls : List Call) : Prop :=
  ∀ symbol minute, ticksOf symbol minute calls ≠ [] →
    ∃ bar, store.storedBar symbol minute = some bar ∧ IsBarOf bar (ticksOf symbol minute calls)

/-- A flush, or a tick of another minute of the symbol. -/
def Closes (symbol : String) (minute : Int) : Call → Prop
  | .recordTick bar _ => bar.symbol = symbol ∧ minuteOf bar.timestamp ≠ minute
  | .flush _ => True

/-- Nothing closes a minute of a symbol between two of its ticks. -/
def Undivided (calls : List Call) : Prop :=
  ∀ before call after, calls = before ++ call :: after → ∀ symbol minute,
    Closes symbol minute call →
      ticksOf symbol minute before = [] ∨ ticksOf symbol minute after = []

theorem itemsOf_signals (symbol : String) (minute : Int) (calls : List Call) :
    Grouping.itemsOf (calls.map (signalOf symbol minute)) = ticksOf symbol minute calls := by
  unfold Grouping.itemsOf ticksOf
  rw [List.filterMap_map]
  refine List.filterMap_congr fun call _ => ?_
  cases call with
  | flush now => rfl
  | recordTick bar now =>
      by_cases sameSymbol : bar.symbol = symbol
      · by_cases sameMinute : minuteOf bar.timestamp = minute
        · simp [signalOf, sameSymbol, sameMinute]
        · simp [signalOf, sameSymbol, sameMinute]
      · simp [signalOf, sameSymbol]

theorem signalOf_eq_close_iff {symbol : String} {minute : Int} {call : Call} :
    signalOf symbol minute call = .close ↔ Closes symbol minute call := by
  cases call with
  | flush now => exact iff_of_true rfl trivial
  | recordTick bar now =>
      unfold signalOf Closes
      by_cases sameSymbol : bar.symbol = symbol
      · by_cases sameMinute : minuteOf bar.timestamp = minute
        · simp [sameSymbol, sameMinute]
        · simp [sameSymbol, sameMinute]
      · simp [sameSymbol]

theorem undivided_iff (calls : List Call) :
    Undivided calls ↔
      ∀ symbol minute, Grouping.Unsplit (calls.map (signalOf symbol minute)) := by
  constructor
  · intro undivided symbol minute before after cut
    obtain ⟨head, tail, rfl, rfl, rest⟩ := List.map_eq_append_iff.mp cut
    obtain ⟨call, later, rfl, closes, rfl⟩ := List.map_eq_cons_iff.mp rest
    rw [itemsOf_signals, itemsOf_signals]
    exact undivided head call later rfl symbol minute (signalOf_eq_close_iff.mp closes)
  · rintro unsplit before call after rfl symbol minute closes
    have whole := unsplit symbol minute (before.map (signalOf symbol minute))
      (after.map (signalOf symbol minute))
      (by rw [List.map_append, List.map_cons, signalOf_eq_close_iff.mpr closes])
    rwa [itemsOf_signals, itemsOf_signals] at whole

/-- After the calls every minute is the group its signals make. -/
theorem slot_run {start : MarketDataStore} (empty : start.buffer = Dict.empty) (symbol : String)
    (minute : Int) (calls : List Call) :
    AllDated (run step start calls) ∧
      slot (run step start calls) (minuteSlot symbol minute) =
        slotOf (start.storedBar symbol minute)
          (Grouping.after (calls.map (signalOf symbol minute))) := by
  induction calls using List.reverseRecOn with
  | nil =>
      refine ⟨fun key member => ?_, ?_⟩
      · rw [run_nil, empty] at member
        cases member
      · show Slot.mk (start.buffer.get? _) _ = _
        rw [empty]
        rfl
  | append_singleton calls call inductionHypothesis =>
      obtain ⟨dated, holds⟩ := inductionHypothesis
      rw [run_append, List.map_append, List.map_singleton, Grouping.after_concat]
      exact ⟨dated.step call, slot_step dated holds call⟩

/-- After a last flush the stored bar of a minute is that of the group that was closed
last. -/
theorem storedBar_flush_run {start : MarketDataStore} (empty : start.buffer = Dict.empty)
    (calls : List Call) (now : Int) (symbol : String) (minute : Int) :
    ((run step start calls).flush now).storedBar symbol minute =
      barOf (start.storedBar symbol minute)
        (Grouping.after (calls.map (signalOf symbol minute))).close.last := by
  obtain ⟨dated, holds⟩ := slot_run empty symbol minute calls
  have flushed := slot_flush dated now symbol minute
  rw [holds, ← slotOf_close] at flushed
  exact congrArg Slot.bar flushed

/-- A minute whose ticks are one group is stored as the aggregate of all of them. -/
theorem storedBar_of_unsplit {start : MarketDataStore} (empty : start.buffer = Dict.empty)
    {calls : List Call} {now : Int} {symbol : String} {minute : Int}
    (unsplit : Grouping.Unsplit (calls.map (signalOf symbol minute))) {first : MarketBar}
    {rest : List MarketBar} (ticks : ticksOf symbol minute calls = first :: rest) :
    ((run step start calls).flush now).storedBar symbol minute = some (aggregate first rest) := by
  have group := (Grouping.last_close_eq_iff _).mpr unsplit
  rw [itemsOf_signals] at group
  rw [storedBar_flush_run empty, group, ticks]
  rfl

/-- The number of samples tells which ticks a bar is of. -/
theorem unsplit_of_aggregatesAll {start : MarketDataStore} (empty : start.buffer = Dict.empty)
    {calls : List Call} {now : Int}
    (aggregates : AggregatesAll ((run step start calls).flush now) calls) (symbol : String)
    (minute : Int) : Grouping.Unsplit (calls.map (signalOf symbol minute)) := by
  obtain ⟨-, final, nonempty⟩ := Grouping.suffixes (calls.map (signalOf symbol minute))
  rw [← Grouping.length_last_close_eq_iff]
  rw [itemsOf_signals] at final nonempty ⊢
  cases ticks : ticksOf symbol minute calls with
  | nil =>
      rw [ticks] at final
      rw [List.suffix_nil.mp final]
  | cons first rest =>
      obtain ⟨bar, isStored, whole⟩ := aggregates symbol minute (by simp [ticks])
      rw [storedBar_flush_run empty] at isStored
      cases group : (Grouping.after (calls.map (signalOf symbol minute))).close.last with
      | nil =>
          rw [ticks] at nonempty
          exact absurd (nonempty group) (List.cons_ne_nil first rest)
      | cons head tail =>
          rw [group] at isStored
          have written : bar.samples = (head :: tail).length :=
            (congrArg StoredBar.samples (Option.some.inj isStored)).symm
          have counted : bar.samples = (first :: rest).length := ticks ▸ whole.samples
          exact written.symm.trans counted

/-- After any calls and a last flush, the stored bar of every symbol and minute
is that of all its ticks exactly when nothing closed a minute between two of its
ticks and no volume of a minute is rounded away. -/
theorem aggregatesAll_iff {start : MarketDataStore} (empty : start.buffer = Dict.empty)
    (calls : List Call) (now : Int) :
    AggregatesAll ((run step start calls).flush now) calls ↔
      Undivided calls ∧ ∀ symbol minute, VolumeKept (ticksOf symbol minute calls) := by
  rw [undivided_iff]
  constructor
  · intro aggregates
    have unsplit := unsplit_of_aggregatesAll empty aggregates
    refine ⟨unsplit, fun symbol minute => ?_⟩
    cases ticks : ticksOf symbol minute calls with
    | nil => rfl
    | cons first rest =>
        obtain ⟨bar, isStored, whole⟩ := aggregates symbol minute (by simp [ticks])
        rw [storedBar_of_unsplit empty (unsplit symbol minute) ticks] at isStored
        rw [← Option.some.inj isStored, ticks] at whole
        exact whole.volume
  · rintro ⟨unsplit, kept⟩ symbol minute nonempty
    cases ticks : ticksOf symbol minute calls with
    | nil => exact absurd ticks nonempty
    | cons first rest =>
        exact ⟨_, storedBar_of_unsplit empty (unsplit symbol minute) ticks,
          isBarOf_aggregate (ticks ▸ kept symbol minute)⟩

/-- Two ticks of one minute, five seconds apart. -/
def openingTicks : List MarketBar :=
  [{ timestamp := 1777213985, symbol := "SPY", price := 500 },
    { timestamp := 1777213990, symbol := "SPY", price := 501 }]

theorem aggregatesAll_iff_one_flush :
    AggregatesAll ((run step {} (openingTicks.map fun bar =>
      .recordTick bar bar.timestamp)).flush 1777214000)
        (openingTicks.map fun bar => .recordTick bar bar.timestamp) := by
  refine (aggregatesAll_iff rfl _ 1777214000).mpr ⟨?_, fun symbol minute =>
    volumeKept_of_zero fun tick member => ?_⟩
  · intro before call after cut symbol minute closes
    have size := congrArg List.length cut
    rw [List.length_append, List.length_cons] at size
    cases before with
    | nil => exact Or.inl rfl
    | cons head tail =>
        have short : tail.length + 1 + (after.length + 1) = 2 := size.symm
        have none : after = [] := List.length_eq_zero_iff.mp (by omega)
        rw [none]
        exact Or.inr rfl
  · obtain ⟨now, recorded⟩ := exists_recordTick_of_mem_ticksOf member
    obtain ⟨bar, opening, same⟩ := List.mem_map.mp recorded
    cases same
    exact (by decide : ∀ bar ∈ openingTicks, bar.volume = 0) tick opening

/-- The loop flushes after each poll, so the minute is written twice and the
first tick is gone. -/
theorem not_aggregatesAll_flush_between :
    ¬ AggregatesAll ((run step {} (openingTicks.flatMap fun bar =>
      [.recordTick bar bar.timestamp, .flush bar.timestamp])).flush 1777214000)
        (openingTicks.flatMap fun bar =>
          [.recordTick bar bar.timestamp, .flush bar.timestamp]) := by
  intro aggregates
  obtain ⟨bar, stored, whole⟩ := aggregates "SPY" (minuteOf 1777213985) (List.cons_ne_nil _ _)
  have written := congrArg (Option.map StoredBar.samples) stored
  rw [Option.map_some, whole.samples] at written
  revert written
  decide +kernel

end TradingStrands.MarketDataStore
