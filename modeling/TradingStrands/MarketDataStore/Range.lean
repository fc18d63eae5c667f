import Mathlib.Data.Rat.Floor
import TradingStrands.Foundation.Newest
import TradingStrands.MarketDataStore.Faults

/-!
Owns the range read. It walks the hours from the one that holds the start to the
last that begins no later than the end, and sorts what it finds by the moments
of the last ticks. Times are exact rationals.

A bar is filed under the hour and the minute of its last tick, so it is found in
exactly one of these hours, and no two bars of a symbol have one last tick.
-/

namespace TradingStrands.MarketDataStore

open TradingStrands.Foundation

/-- The bars of an hour whose last ticks lie in the window. -/
def barsWithin (store : MarketDataStore) (symbol : String) (startTs endTs : ℚ) (h : Int) :
    List (Int × StoredBar) :=
  (store.getHour symbol (hourBucket h)).values.filterMap fun bar =>
    if startTs ≤ bar.lastTs ∧ bar.lastTs ≤ endTs then some (bar.lastTs, bar) else none

def rangeFrom (store : MarketDataStore) (symbol : String) (startTs endTs : ℚ) (h : Int)
    (out : List (Int × StoredBar)) : List (Int × StoredBar) :=
  if h ≤ endTs then
    rangeFrom store symbol startTs endTs (h + 3600) (out ++ store.barsWithin symbol startTs endTs h)
  else out
termination_by (⌊endTs⌋ + 1 - h).toNat
decreasing_by
  have within : h ≤ ⌊endTs⌋ := Int.le_floor.mpr ‹_›
  omega

def getRange (store : MarketDataStore) (symbol : String) (startTs endTs : ℚ) :
    List (Int × StoredBar) :=
  oldestFirst Prod.fst (store.rangeFrom symbol startTs endTs (⌊startTs / 3600⌋ * 3600) [])

/-- The bars of a symbol in the rows of a table. -/
def storedBars (table : Dict String HourRow) (symbol : String) : List StoredBar :=
  (table.values.filter fun row => row.symbol = symbol).flatMap fun row => row.minuteBars.values

/-! ### The hours of moments -/

/-- A bucket names one hour. -/
theorem hourBucket_eq_iff {left right : Int} :
    hourBucket left = hourBucket right ↔ left / 3600 = right / 3600 := by
  constructor
  · intro buckets
    obtain ⟨year, month, day, hour⟩ := hourBucket_inj buckets
    have within : ∀ timestamp, ((gmtime timestamp).minute : Int) < 60 ∧
        ((gmtime timestamp).second : Int) < 60 := by
      intro timestamp
      unfold gmtime
      dsimp only
      omega
    have leftWithin := within left
    have rightWithin := within right
    have leftSeconds := secondsOf_gmtime left
    have rightSeconds := secondsOf_gmtime right
    unfold secondsOf at leftSeconds rightSeconds
    rw [year, month, day, hour] at leftSeconds
    dsimp only at leftSeconds rightSeconds
    omega
  · intro same
    have start : ∀ timestamp : Int,
        hourBucket timestamp = hourBucket (3600 * (timestamp / 3600)) := by
      intro timestamp
      have day : timestamp / 86400 = 3600 * (timestamp / 3600) / 86400 := by omega
      have hour : (timestamp % 86400).toNat / 3600 =
          (3600 * (timestamp / 3600) % 86400).toNat / 3600 := by omega
      unfold hourBucket gmtime
      dsimp only
      rw [day, hour]
    rw [start left, start right, same]

/-! ### Where stored bars are -/

/-- The bars of an hour have their last ticks in it. -/
theorem Filed.hour_eq {store : MarketDataStore} (filed : Filed store.table) {symbol : String}
    {h : Int} {minute : String} {bar : StoredBar}
    (held : (store.getHour symbol (hourBucket h)).get? minute = some bar) :
    bar.lastTs / 3600 = h / 3600 ∧ minuteKey bar.lastTs = minute := by
  unfold getHour at held
  cases found : store.table.get? (hourPk symbol (hourBucket h)) with
  | none =>
      rw [found] at held
      cases held
  | some row =>
      rw [found] at held
      obtain ⟨hour, key⟩ := filed.bars _ row found minute bar held
      have dated : Dated ⟨symbol, hourBucket h, minute⟩ := ⟨h, rfl⟩
      obtain ⟨-, bucket⟩ := filed.row_eq dated found
      exact ⟨hourBucket_eq_iff.mp (hour.trans bucket), key⟩

/-- A bar is stored exactly if it is in the hour and the minute of its last tick. -/
theorem Filed.mem_storedBars_iff {store : MarketDataStore} (filed : Filed store.table)
    {symbol : String} {bar : StoredBar} :
    bar ∈ storedBars store.table symbol ↔
      (store.getHour symbol (hourBucket bar.lastTs)).get? (minuteKey bar.lastTs) = some bar := by
  unfold storedBars getHour
  rw [List.mem_flatMap]
  constructor
  · rintro ⟨row, member, inRow⟩
    obtain ⟨stored, ofSymbol⟩ := List.mem_filter.mp member
    obtain ⟨pk, found⟩ := Dict.mem_values_iff.mp stored
    obtain ⟨minute, held⟩ := Dict.mem_values_iff.mp inRow
    obtain ⟨hour, key⟩ := filed.bars pk row found minute bar held
    have here := filed.keyed pk row found
    rw [of_decide_eq_true ofSymbol, ← hour] at here
    rw [← here, found, key]
    exact held
  · intro held
    cases found : store.table.get? (hourPk symbol (hourBucket bar.lastTs)) with
    | none =>
        rw [found] at held
        cases held
    | some row =>
        rw [found] at held
        have dated : Dated ⟨symbol, hourBucket bar.lastTs, minuteKey bar.lastTs⟩ := ⟨_, rfl⟩
        obtain ⟨ofSymbol, -⟩ := filed.row_eq dated found
        exact ⟨row, List.mem_filter.mpr ⟨Dict.mem_values_iff.mpr ⟨_, found⟩, decide_eq_true ofSymbol⟩,
          Dict.mem_values_iff.mpr ⟨_, held⟩⟩

/-- The bars of an hour are the stored bars whose last ticks are in it. -/
theorem Filed.mem_hour_iff {store : MarketDataStore} (filed : Filed store.table) {symbol : String}
    {h : Int} {bar : StoredBar} :
    bar ∈ (store.getHour symbol (hourBucket h)).values ↔
      bar ∈ storedBars store.table symbol ∧ bar.lastTs / 3600 = h / 3600 := by
  rw [Dict.mem_values_iff, filed.mem_storedBars_iff]
  constructor
  · rintro ⟨minute, held⟩
    obtain ⟨hour, key⟩ := filed.hour_eq held
    rw [hourBucket_eq_iff.mpr hour, key]
    exact ⟨held, hour⟩
  · rintro ⟨held, hour⟩
    rw [← hourBucket_eq_iff.mpr hour]
    exact ⟨_, held⟩

/-- Where no stored bar is in a later hour, one that is not in this hour is older
than each that is. -/
theorem Filed.mem_hour_or_older {store : MarketDataStore} (filed : Filed store.table)
    {symbol : String} {h : Int}
    (last : ∀ bar ∈ storedBars store.table symbol, bar.lastTs / 3600 ≤ h / 3600)
    {bar other : StoredBar} (member : bar ∈ (store.getHour symbol (hourBucket h)).values)
    (stored : other ∈ storedBars store.table symbol) :
    other ∈ (store.getHour symbol (hourBucket h)).values ∨ other.lastTs < bar.lastTs := by
  have hour := (filed.mem_hour_iff.mp member).2
  have notLater := last other stored
  by_cases otherHour : other.lastTs / 3600 = h / 3600
  · exact Or.inl (filed.mem_hour_iff.mpr ⟨stored, otherHour⟩)
  · right
    omega

/-- No two bars of a row have one last tick. -/
theorem pairwise_lastTs_values {bars : Dict String StoredBar}
    (keyed : ∀ minute bar, bars.get? minute = some bar → minuteKey bar.lastTs = minute) :
    bars.values.Pairwise fun left right => left.lastTs ≠ right.lastTs := by
  unfold Dict.values
  rw [List.pairwise_map]
  refine (List.pairwise_map.mp bars.nodup).imp_of_mem
    fun {left right} inLeft inRight different same => ?_
  have leftKey := keyed _ _ (Dict.get?_of_mem_entries inLeft)
  have rightKey := keyed _ _ (Dict.get?_of_mem_entries inRight)
  exact different (leftKey.symm.trans ((congrArg minuteKey same).trans rightKey))

theorem Filed.nodup_storedBars {table : Dict String HourRow} (filed : Filed table)
    (symbol : String) : (storedBars table symbol).Nodup := by
  unfold storedBars
  rw [List.nodup_flatMap]
  constructor
  · intro row member
    obtain ⟨pk, found⟩ := Dict.mem_values_iff.mp (List.mem_filter.mp member).1
    refine (pairwise_lastTs_values fun minute bar held => ?_).imp fun different same => ?_
    · exact (filed.bars pk row found minute bar held).2
    · exact different (congrArg StoredBar.lastTs same)
  · unfold Dict.values
    rw [List.filter_map, List.pairwise_map]
    refine ((List.pairwise_map.mp table.nodup).filter _).imp_of_mem
      fun {left right} inLeft inRight different => ?_
    obtain ⟨leftStored, leftSymbol⟩ := List.mem_filter.mp inLeft
    obtain ⟨rightStored, rightSymbol⟩ := List.mem_filter.mp inRight
    intro bar leftBar rightBar
    have leftFound := Dict.get?_of_mem_entries leftStored
    have rightFound := Dict.get?_of_mem_entries rightStored
    obtain ⟨leftMinute, leftHeld⟩ := Dict.mem_values_iff.mp leftBar
    obtain ⟨rightMinute, rightHeld⟩ := Dict.mem_values_iff.mp rightBar
    have buckets := (filed.bars _ _ leftFound _ bar leftHeld).1.symm.trans
      (filed.bars _ _ rightFound _ bar rightHeld).1
    have symbols := (of_decide_eq_true leftSymbol).trans (of_decide_eq_true rightSymbol).symm
    refine different ?_
    rw [filed.keyed _ _ leftFound, filed.keyed _ _ rightFound]
    exact congrArg₂ hourPk symbols buckets

/-! ### The walk over the hours -/

theorem mem_barsWithin_iff {store : MarketDataStore} {symbol : String} {startTs endTs : ℚ}
    {h : Int} {found : Int × StoredBar} :
    found ∈ store.barsWithin symbol startTs endTs h ↔
      found.2 ∈ (store.getHour symbol (hourBucket h)).values ∧ found.1 = found.2.lastTs ∧
        startTs ≤ found.1 ∧ found.1 ≤ endTs := by
  unfold barsWithin
  rw [List.mem_filterMap]
  constructor
  · rintro ⟨bar, member, read⟩
    split at read
    next within =>
      obtain rfl := Option.some.inj read
      exact ⟨member, rfl, within⟩
    next => cases read
  · obtain ⟨lastTs, bar⟩ := found
    rintro ⟨member, same, within⟩
    dsimp only at same
    subst same
    exact ⟨bar, member, if_pos within⟩

theorem mem_rangeFrom_iff {store : MarketDataStore} {symbol : String} {startTs endTs : ℚ}
    {h : Int} {out : List (Int × StoredBar)} {found : Int × StoredBar} :
    found ∈ store.rangeFrom symbol startTs endTs h out ↔
      found ∈ out ∨ ∃ hours : Nat, h + 3600 * hours ≤ endTs ∧
        found ∈ store.barsWithin symbol startTs endTs (h + 3600 * hours) := by
  induction h, out using rangeFrom.induct store symbol startTs endTs with
  | case1 h out within inductionHypothesis =>
      rw [rangeFrom, if_pos within, inductionHypothesis, List.mem_append, or_assoc]
      refine or_congr_right ⟨?_, ?_⟩
      · rintro (here | ⟨hours, begun, later⟩)
        · exact ⟨0, by simpa using within, by simpa using here⟩
        · refine ⟨hours + 1, ?_, ?_⟩
          · push_cast at begun ⊢
            linarith
          · have same : h + 3600 * ((hours + 1 : Nat) : Int) = h + 3600 + 3600 * hours := by omega
            rw [same]
            exact later
      · rintro ⟨hours, begun, member⟩
        cases hours with
        | zero => exact Or.inl (by simpa using member)
        | succ hours =>
            refine Or.inr ⟨hours, ?_, ?_⟩
            · push_cast at begun ⊢
              linarith
            · have same : h + 3600 + 3600 * (hours : Int) = h + 3600 * ((hours + 1 : Nat) : Int) := by
                omega
              rw [same]
              exact member
  | case2 h out past =>
      rw [rangeFrom, if_neg past]
      refine (or_iff_left ?_).symm
      rintro ⟨hours, begun, -⟩
      have nonnegative : (0 : ℚ) ≤ hours := Nat.cast_nonneg hours
      exact past (by linarith)

/-- The walk finds bars with different last ticks: those of an hour lie in it,
and the hours ascend. -/
theorem Filed.pairwise_rangeFrom {store : MarketDataStore} (filed : Filed store.table)
    {symbol : String} {startTs endTs : ℚ} {h : Int} {out : List (Int × StoredBar)}
    (aligned : h % 3600 = 0) (before : ∀ found ∈ out, found.1 < h)
    (distinct : out.Pairwise fun left right => left.1 ≠ right.1) :
    (store.rangeFrom symbol startTs endTs h out).Pairwise fun left right => left.1 ≠ right.1 := by
  induction h, out using rangeFrom.induct store symbol startTs endTs with
  | case2 h out past => rwa [rangeFrom, if_neg past]
  | case1 h out within inductionHypothesis =>
      have inHour : ∀ found ∈ store.barsWithin symbol startTs endTs h,
          h ≤ found.1 ∧ found.1 < h + 3600 := by
        intro found member
        obtain ⟨inHour, lastTs, -⟩ := mem_barsWithin_iff.mp member
        have hour := (filed.mem_hour_iff.mp inHour).2
        omega
      have hourDistinct : (store.barsWithin symbol startTs endTs h).Pairwise
          fun left right => left.1 ≠ right.1 := by
        refine (pairwise_lastTs_values fun minute bar held => (filed.hour_eq held).2).filterMap _ ?_
        intro left right different leftFound inLeft rightFound inRight
        split at inLeft
        · split at inRight
          · obtain rfl := Option.some.inj inLeft
            obtain rfl := Option.some.inj inRight
            exact different
          · cases inRight
        · cases inLeft
      rw [rangeFrom, if_pos within]
      refine inductionHypothesis (by omega) (fun found member => ?_) ?_
      · rcases List.mem_append.mp member with earlier | here
        · have := before found earlier
          omega
        · exact (inHour found here).2
      · refine List.pairwise_append.mpr ⟨distinct, hourDistinct, fun left inOut right inRange => ?_⟩
        have leftBefore := before left inOut
        have rightAfter := (inHour right inRange).1
        omega

/-! ### Range reads -/

theorem Filed.mem_getRange_iff {store : MarketDataStore} (filed : Filed store.table)
    {symbol : String} {startTs endTs : ℚ} {found : Int × StoredBar} :
    found ∈ store.getRange symbol startTs endTs ↔
      found.2 ∈ storedBars store.table symbol ∧ found.1 = found.2.lastTs ∧
        startTs ≤ found.1 ∧ found.1 ≤ endTs := by
  unfold getRange
  rw [(perm_oldestFirst _ _).mem_iff, mem_rangeFrom_iff]
  constructor
  · rintro (none | ⟨hours, -, member⟩)
    · cases none
    · obtain ⟨inHour, read⟩ := mem_barsWithin_iff.mp member
      exact ⟨(filed.mem_hour_iff.mp inHour).1, read⟩
  · rintro ⟨stored, lastTs, begun, ended⟩
    -- the hour of the last tick is none before that of the start
    have later : ⌊startTs / 3600⌋ ≤ found.1 / 3600 := by
      have floors : ⌊startTs / 3600⌋ ≤ ⌊(found.1 : ℚ) / (3600 : ℕ)⌋ := by
        refine Int.floor_le_floor ?_
        push_cast
        linarith
      rwa [Rat.floor_intCast_div_natCast] at floors
    obtain ⟨hours, walked⟩ := Int.le.dest later
    have hour : ⌊startTs / 3600⌋ * 3600 + 3600 * (hours : Int) = 3600 * (found.1 / 3600) := by omega
    have inHour := filed.mem_hour_iff.mpr ⟨stored, show found.2.lastTs / 3600 =
      (⌊startTs / 3600⌋ * 3600 + 3600 * (hours : Int)) / 3600 by omega⟩
    refine Or.inr ⟨hours, ?_, mem_barsWithin_iff.mpr ⟨inHour, lastTs, begun, ended⟩⟩
    have start : ((⌊startTs / 3600⌋ * 3600 + 3600 * (hours : Int) : Int) : ℚ) ≤ found.1 :=
      Int.cast_le.mpr (by omega)
    push_cast at start ⊢
    linarith

/-- The last ticks of a range read ascend. -/
theorem Filed.pairwise_getRange {store : MarketDataStore} (filed : Filed store.table)
    (symbol : String) (startTs endTs : ℚ) :
    (store.getRange symbol startTs endTs).Pairwise fun left right => left.1 < right.1 := by
  have distinct : (store.getRange symbol startTs endTs).Pairwise
      fun left right => left.1 ≠ right.1 := by
    unfold getRange
    refine ((perm_oldestFirst _ _).pairwise_iff fun different => different.symm).mpr ?_
    exact filed.pairwise_rangeFrom (by omega) (fun _ member => by cases member) List.Pairwise.nil
  exact (pairwise_oldestFirst Prod.fst _).imp₂ (fun _ _ le ne => lt_of_le_of_ne le ne) distinct

/-- Whoever wrote the table, a range read has exactly the stored bars of the
symbol whose last ticks lie in the window, each once and the earliest first. -/
theorem getRange_exact {ι : Type} [DecidableEq ι] (events : List (Feed.Event ι))
    (retentionDays : Int) (buffer : Dict BufferKey (List MarketBar)) (symbol : String)
    (startTs endTs : ℚ) :
    let store : MarketDataStore := { table := Feed.tableAfter events, retentionDays, buffer }
    (store.getRange symbol startTs endTs).Perm
        (((storedBars store.table symbol).filter fun bar =>
          startTs ≤ bar.lastTs ∧ bar.lastTs ≤ endTs).map fun bar => (bar.lastTs, bar)) ∧
      (store.getRange symbol startTs endTs).Pairwise fun left right => left.1 < right.1 := by
  intro store
  have filed : Filed store.table := Feed.filed_tableAfter events
  have ascending := filed.pairwise_getRange symbol startTs endTs
  refine ⟨(List.perm_ext_iff_of_nodup ?_ ?_).mpr fun found => ?_, ascending⟩
  · exact ascending.imp fun less same => absurd (congrArg Prod.fst same) (ne_of_lt less)
  · refine ((filed.nodup_storedBars symbol).filter _).map fun left right same => ?_
    exact congrArg Prod.snd same
  · rw [filed.mem_getRange_iff, List.mem_map]
    constructor
    · obtain ⟨lastTs, bar⟩ := found
      rintro ⟨stored, same, within⟩
      dsimp only at same
      subst same
      exact ⟨bar, List.mem_filter.mpr ⟨stored, decide_eq_true within⟩, rfl⟩
    · rintro ⟨bar, member, rfl⟩
      obtain ⟨stored, within⟩ := List.mem_filter.mp member
      exact ⟨stored, rfl, of_decide_eq_true within⟩

end TradingStrands.MarketDataStore
