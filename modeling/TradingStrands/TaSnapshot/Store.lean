import TradingStrands.Foundation.Buckets
import TradingStrands.Foundation.Dict
import TradingStrands.Foundation.IsoDate
import TradingStrands.Foundation.Runs
import TradingStrands.TaSnapshot.Bollinger
import TradingStrands.TaSnapshot.Indicators

/-!
Owns the snapshot of all indicators of a symbol and the store of snapshots. A
snapshot is written under its symbol and the hour it was computed in, over an
earlier one of that hour. The newest is looked for by walking back over the
hours.

A row holds the values its attributes encode. `sqrt` is the rounded square root.
-/

namespace TradingStrands

open TradingStrands.Foundation

/-- The mapping of all indicators. -/
structure Indicators where
  rsi14 : Option Decimal
  macd : Option Decimal
  macdSignal : Option Decimal
  macdHist : Option Decimal
  sma20 : Option Decimal
  sma50 : Option Decimal
  sma200 : Option Decimal
  bbUpper : Option Decimal
  bbMiddle : Option Decimal
  bbLower : Option Decimal
  lastClose : Option Decimal
deriving DecidableEq, Repr

namespace TaSnapshot

def computeSma (closes : List Decimal) (period : Nat) : Except PyError (Option Decimal) :=
  if closes.length < period ∨ period = 0 then .ok none
  else do return some (← divide (window closes period).sum period)

/-- The sample variance about a mean. -/
def sampleVariance (mean : Decimal) (closes : List Decimal) (period : Nat) :
    Except PyError Decimal :=
  if period = 1 then .ok 0
  else divide (squaredDeviations mean closes) ((period - 1 : Nat) : Decimal)

/-- The bands with a root that need not be exact. -/
def computeBands (sqrt : Decimal → Decimal) (closes : List Decimal) (period : Nat)
    (stdMult : Decimal) : Except PyError (Option (Decimal × Decimal × Decimal)) :=
  if closes.length < period ∨ period = 0 then .ok none
  else do
    let mean ← divide (window closes period).sum period
    let stddev := sqrt (← sampleVariance mean (window closes period) period)
    return some (mean + stdMult * stddev, mean, mean - stdMult * stddev)

def computeSnapshot (sqrt : Decimal → Decimal) (closes : List Decimal) :
    Except PyError Indicators := do
  let macdTriple ← computeMacd closes 12 26 9
  let bb ← computeBands sqrt closes 20 2
  return {
    rsi14 := ← computeRsiWilder closes 14
    macd := macdTriple.map fun triple => triple.1
    macdSignal := macdTriple.map fun triple => triple.2.1
    macdHist := macdTriple.map fun triple => triple.2.2
    sma20 := ← computeSma closes 20
    sma50 := ← computeSma closes 50
    sma200 := ← computeSma closes 200
    bbUpper := bb.map fun bands => bands.1
    bbMiddle := bb.map fun bands => bands.2.1
    bbLower := bb.map fun bands => bands.2.2
    lastClose := closes.getLast? }

end TaSnapshot

/-- One symbol's indicators at one moment. -/
structure TASnapshot extends Indicators where
  symbol : String
  computedAt : Int
deriving DecidableEq, Repr

/-- The row of a snapshot. -/
structure SnapshotRow where
  symbol : String
  date : String
  hour : String
  payload : TASnapshot
  computedAt : Int
  ttl : Int
deriving DecidableEq, Repr

abbrev TASnapshotTable : Type := Dict String SnapshotRow

namespace TASnapshotStore

open TaSnapshot

/-- The two digits of the hour of a moment. -/
def hourText (timestamp : Int) : String := String.ofList (paddedDigits 2 (gmtime timestamp).hour)

def snapshotPk (symbol : String) (timestamp : Int) : String :=
  "TA_SNAPSHOT" ++ "#" ++ symbol ++ "#" ++ isoDate timestamp ++ "#" ++ hourText timestamp

def snapshotTtlSeconds : Int := 30 * 24 * 3600

def putSnapshot (table : TASnapshotTable) (snap : TASnapshot) : TASnapshotTable :=
  table.set (snapshotPk snap.symbol snap.computedAt)
    { symbol := snap.symbol, date := isoDate snap.computedAt, hour := hourText snap.computedAt
      payload := snap, computedAt := snap.computedAt
      ttl := snap.computedAt + snapshotTtlSeconds }

/-- Walk back over the hours from that of `now`; the default reach is six. -/
def getLatest (table : TASnapshotTable) (now : Int) (symbol : String) (lookbackHours : Nat := 6) :
    Option TASnapshot :=
  (List.range (lookbackHours + 1)).findSome? fun offset : Nat =>
    (table.get? (snapshotPk symbol (now - offset * 3600))).map (·.payload)

/-! ### The keys -/

theorem hash_freeOf_hourText (timestamp : Int) : FreeOf '#' (hourText timestamp) := by
  unfold FreeOf hourText
  rw [String.toList_ofList]
  exact fun member => absurd (isDigit_of_mem_paddedDigits member) (by decide)

/-- An hour is a day and an hour of the day. -/
theorem hour_eq_iff {left right : Int} :
    left / 3600 = right / 3600 ↔
      utcDay left = utcDay right ∧ (gmtime left).hour = (gmtime right).hour := by
  unfold utcDay gmtime
  dsimp only
  omega

/-- A key names one symbol and one hour. -/
theorem snapshotPk_eq_iff {symbol other : String} {timestamp moment : Int} :
    snapshotPk symbol timestamp = snapshotPk other moment ↔
      symbol = other ∧ timestamp / 3600 = moment / 3600 := by
  have isMark : "#".toList = ['#'] := rfl
  rw [hour_eq_iff]
  constructor
  · intro same
    obtain ⟨front, hours⟩ := joined_inj isMark (hash_freeOf_hourText timestamp)
      (hash_freeOf_hourText moment) same
    have dateFree : ∀ seconds, FreeOf '#' (isoDate seconds) :=
      isoDate_freeOf (by decide) (by decide)
    obtain ⟨symbols, dates⟩ := joined_inj isMark (dateFree timestamp) (dateFree moment) front
    refine ⟨?_, isoDate_eq_iff.mp dates, paddedDigits_inj (String.ofList_injective hours)⟩
    have chars := congrArg String.toList symbols
    simp only [String.toList_append, List.append_cancel_left_eq] at chars
    exact String.toList_inj.mp chars
  · rintro ⟨rfl, day, hour⟩
    unfold snapshotPk hourText
    rw [isoDate_eq_iff.mpr day, hour]

/-! ### The hours of a symbol as buckets -/

/-- What the table holds for a symbol and an hour. -/
def heldFor (table : TASnapshotTable) (symbol : String) (hour : Int) : Option TASnapshot :=
  (table.get? (snapshotPk symbol (3600 * hour))).map (·.payload)

/-- The symbol's snapshots, each under its hour. -/
def filedFor (symbol : String) (snaps : List TASnapshot) : List (Int × TASnapshot) :=
  (snaps.filter fun snap => snap.symbol = symbol).map fun snap => (snap.computedAt / 3600, snap)

theorem getLatest_eq_walkBack (table : TASnapshotTable) (now : Int) (symbol : String)
    (lookbackHours : Nat) :
    getLatest table now symbol lookbackHours =
      walkBack (heldFor table symbol) (now / 3600) lookbackHours := by
  have sameKey : ∀ offset : Nat, snapshotPk symbol (now - offset * 3600) =
      snapshotPk symbol (3600 * (now / 3600 - offset)) := by
    intro offset
    exact snapshotPk_eq_iff.mpr ⟨rfl, by omega⟩
  unfold getLatest walkBack heldFor
  simp only [sameKey]

theorem heldFor_putSnapshot (table : TASnapshotTable) (snap : TASnapshot) (symbol : String)
    (hour : Int) :
    heldFor (putSnapshot table snap) symbol hour =
      if snap.symbol = symbol ∧ hour = snap.computedAt / 3600 then some snap
      else heldFor table symbol hour := by
  unfold heldFor putSnapshot
  rw [Dict.get?_set]
  by_cases own : snap.symbol = symbol ∧ hour = snap.computedAt / 3600
  · have key : snapshotPk symbol (3600 * hour) = snapshotPk snap.symbol snap.computedAt :=
      snapshotPk_eq_iff.mpr ⟨own.1.symm, by omega⟩
    rw [if_pos own, if_pos key]
    rfl
  · have key : snapshotPk symbol (3600 * hour) ≠ snapshotPk snap.symbol snap.computedAt := by
      intro same
      obtain ⟨symbols, hours⟩ := snapshotPk_eq_iff.mp same
      exact own ⟨symbols.symm, by omega⟩
    rw [if_neg own, if_neg key]

/-- The hours of a symbol hold the last snapshots filed under them. -/
theorem heldFor_run (snaps : List TASnapshot) (symbol : String) (hour : Int) :
    heldFor (run putSnapshot Dict.empty snaps) symbol hour =
      heldAfter (filedFor symbol snaps) hour := by
  induction snaps using List.reverseRecOn with
  | nil => rfl
  | append_singleton snaps snap inductionHypothesis =>
      rw [run_concat, heldFor_putSnapshot, inductionHypothesis]
      unfold filedFor
      rw [List.filter_append, List.map_append]
      by_cases ofSymbol : snap.symbol = symbol
      · rw [List.filter_singleton, decide_eq_true ofSymbol, cond_true, List.map_singleton,
          heldAfter_concat]
        simp only [ofSymbol, true_and]
      · rw [List.filter_singleton, decide_eq_false ofSymbol, cond_false, List.map_nil,
          List.append_nil, if_neg fun own => ofSymbol own.1]

/-- After any writes whose clocks do not run back, the newest snapshot of a symbol
is its last one that was written, if that is within reach. -/
theorem getLatest_run {snaps : List TASnapshot} {symbol : String} {now : Int}
    (ordered : (snaps.filter fun snap => snap.symbol = symbol).Pairwise fun left right =>
      left.computedAt ≤ right.computedAt)
    (past : ∀ snap ∈ snaps, snap.symbol = symbol → snap.computedAt ≤ now) (lookbackHours : Nat) :
    getLatest (run putSnapshot Dict.empty snaps) now symbol lookbackHours =
      (snaps.filter fun snap => snap.symbol = symbol).getLast?.filter fun snap =>
        now / 3600 - lookbackHours ≤ snap.computedAt / 3600 := by
  have hours : (filedFor symbol snaps).Pairwise fun left right => left.1 ≤ right.1 := by
    unfold filedFor
    rw [List.pairwise_map]
    exact ordered.imp fun order => Int.ediv_le_ediv (by decide) order
  have earlier : ∀ entry ∈ filedFor symbol snaps, entry.1 ≤ now / 3600 := by
    intro entry member
    obtain ⟨snap, stored, rfl⟩ := List.mem_map.mp member
    obtain ⟨written, ofSymbol⟩ := List.mem_filter.mp stored
    exact Int.ediv_le_ediv (by decide) (past snap written (of_decide_eq_true ofSymbol))
  rw [getLatest_eq_walkBack, funext (heldFor_run snaps symbol), walkBack_heldAfter hours earlier]
  unfold filedFor
  rw [List.getLast?_map]
  cases (snaps.filter fun snap => snap.symbol = symbol).getLast? with
  | none => rfl
  | some snap =>
      rw [Option.map_some, Option.filter_some, Option.filter_some]
      split <;> rfl

end TASnapshotStore

end TradingStrands
