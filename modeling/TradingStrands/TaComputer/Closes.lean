import TradingStrands.TaComputer.Computer

/-!
Proves which closes a snapshot is computed from. Bars are filed under the hour and
the minute of their last ticks, and the two digits of a minute are ordered as the
minutes are. So the closes gathered hour by hour, each hour in the order of its
keys, are those of the symbol's stored bars in the order of their last ticks.

With them every indicator is computed; one is missing exactly if there are too few
closes for it.
-/

namespace TradingStrands

open TradingStrands.Foundation MarketDataStore

/-! ### The bars of an hour in order -/

namespace MarketDataStore

theorem minuteText_lt : ∀ minute < 59,
    String.ofList (paddedDigits 2 minute) < String.ofList (paddedDigits 2 (minute + 1)) := by
  decide

/-- The texts of minutes are ordered as the minutes are. -/
theorem minuteText_le {left right : Nat} (order : left ≤ right) (inHour : right < 60) :
    String.ofList (paddedDigits 2 left) ≤ String.ofList (paddedDigits 2 right) := by
  induction right, order using Nat.le_induction with
  | base => exact le_rfl
  | succ minute _ inductionHypothesis =>
      exact (inductionHypothesis (by omega)).trans (minuteText_lt minute (by omega)).le

/-- Within an hour a later minute key is that of a later moment. -/
theorem lt_of_minuteKey_lt {left right : Int} (sameHour : left / 3600 = right / 3600)
    (keys : minuteKey left < minuteKey right) : left < right := by
  have minute : ∀ timestamp, (gmtime timestamp).minute < 60 ∧
      ((gmtime timestamp).minute : Int) = timestamp % 3600 / 60 := by
    intro timestamp
    unfold gmtime
    dsimp only
    omega
  have minutes : (gmtime left).minute < (gmtime right).minute := by
    by_contra notLater
    exact absurd keys (not_lt.mpr (minuteText_le (not_lt.mp notLater) (minute left).1))
  have leftMinute := minute left
  have rightMinute := minute right
  omega

/-- The bars of an hour, in the order of their keys. -/
def barsInOrder (store : MarketDataStore) (symbol : String) (h : Int) : List StoredBar :=
  (oldestFirst Prod.fst (store.getHour symbol (hourBucket h)).entries).map Prod.snd

theorem mem_barsInOrder {store : MarketDataStore} {symbol : String} {h : Int} {bar : StoredBar} :
    bar ∈ store.barsInOrder symbol h ↔ bar ∈ (store.getHour symbol (hourBucket h)).values :=
  ((perm_oldestFirst _ _).map Prod.snd).mem_iff

theorem Filed.pairwise_barsInOrder {store : MarketDataStore} (filed : Filed store.table)
    (symbol : String) (h : Int) :
    (store.barsInOrder symbol h).Pairwise fun left right => left.lastTs < right.lastTs := by
  have distinct : (oldestFirst Prod.fst (store.getHour symbol (hourBucket h)).entries).Pairwise
      fun left right => left.1 ≠ right.1 :=
    ((perm_oldestFirst _ _).pairwise_iff fun different => different.symm).mpr
      (List.pairwise_map.mp (store.getHour symbol (hourBucket h)).nodup)
  unfold barsInOrder
  rw [List.pairwise_map]
  refine ((pairwise_oldestFirst Prod.fst _).and distinct).imp_of_mem
    fun {left right} inLeft inRight order => ?_
  have leftHeld := Dict.get?_of_mem_entries ((perm_oldestFirst _ _).mem_iff.mp inLeft)
  have rightHeld := Dict.get?_of_mem_entries ((perm_oldestFirst _ _).mem_iff.mp inRight)
  obtain ⟨leftHour, leftKey⟩ := filed.hour_eq leftHeld
  obtain ⟨rightHour, rightKey⟩ := filed.hour_eq rightHeld
  refine lt_of_minuteKey_lt (leftHour.trans rightHour.symm) ?_
  rw [leftKey, rightKey]
  exact lt_of_le_of_ne order.1 order.2

end MarketDataStore

/-! ### The indicators of closes -/

namespace TaSnapshot

/-- A computation that does not raise and has a value exactly from so many closes on. -/
def PresentFrom {α : Type} (enough : Nat) (closes : List Decimal)
    (result : Except PyError (Option α)) : Prop :=
  ∃ value, result = .ok value ∧ (value.isSome = true ↔ enough ≤ closes.length)

variable (sqrt : Decimal → Decimal) (closes : List Decimal)

theorem presentFrom_computeSma {period : Nat} (positive : 1 ≤ period) :
    PresentFrom period closes (computeSma closes period) := by
  unfold computeSma
  by_cases enough : period ≤ closes.length
  · rw [if_neg (by omega), divide_period _ positive]
    exact ⟨_, rfl, iff_of_true rfl enough⟩
  · rw [if_pos (by omega)]
    exact ⟨none, rfl, iff_of_false Bool.false_ne_true enough⟩

theorem presentFrom_computeRsiWilder {period : Nat} (positive : 1 ≤ period) :
    PresentFrom (period + 1) closes (computeRsiWilder closes period) := by
  by_cases enough : period + 1 ≤ closes.length
  · exact ⟨_, computeRsiWilder_eq positive enough, iff_of_true rfl enough⟩
  · unfold computeRsiWilder
    rw [if_pos (by omega)]
    exact ⟨none, rfl, iff_of_false Bool.false_ne_true enough⟩

theorem presentFrom_computeMacd :
    PresentFrom (26 + 9) closes (computeMacd closes 12 26 9) := by
  by_cases enough : 26 + 9 ≤ closes.length
  · have long : 9 ≤ ((prefixesFrom closes 26).map (gap 12 26)).length := by
      unfold prefixesFrom
      rw [List.length_map, List.length_map, List.length_range']
      omega
    have last := @getLast?_prefixesFrom closes 12 26 (by omega)
    unfold PresentFrom computeMacd
    rw [if_neg (by omega), macdSeries_eq (by decide) (by decide) (by omega)]
    generalize (prefixesFrom closes 26).map (gap 12 26) = series at long last ⊢
    show ∃ value, (if series.length < 9 then _ else _) = _ ∧ _
    rw [if_neg (by omega), divide_alpha, divide_period _ (by decide), last]
    exact ⟨_, rfl, iff_of_true rfl enough⟩
  · unfold computeMacd
    rw [if_pos (by omega)]
    exact ⟨none, rfl, iff_of_false Bool.false_ne_true enough⟩

theorem presentFrom_computeBands {period : Nat} (several : 2 ≤ period) (stdMult : Decimal) :
    PresentFrom period closes (computeBands sqrt closes period stdMult) := by
  have fewer : ((period - 1 : Nat) : Decimal) ≠ 0 := Nat.cast_ne_zero.mpr (by omega)
  unfold computeBands
  by_cases enough : period ≤ closes.length
  · have varied : ∀ mean, sampleVariance mean (window closes period) period =
        .ok (squaredDeviations mean (window closes period) / ((period - 1 : Nat) : Decimal)) := by
      intro mean
      unfold sampleVariance
      rw [if_neg (by omega), divide_of_ne_zero fewer]
    simp only [if_neg (show ¬ (closes.length < period ∨ period = 0) by omega),
      divide_period _ (show 1 ≤ period by omega), varied]
    exact ⟨_, rfl, iff_of_true rfl enough⟩
  · rw [if_pos (by omega)]
    exact ⟨none, rfl, iff_of_false Bool.false_ne_true enough⟩

/-- Every indicator is computed, whatever the root is; one is missing exactly if
there are too few closes for it. -/
theorem computeSnapshot_present :
    ∃ indicators, computeSnapshot sqrt closes = .ok indicators ∧
      indicators.lastClose = closes.getLast? ∧
      ∀ entry ∈ [(indicators.rsi14, 15), (indicators.macd, 35), (indicators.macdSignal, 35),
        (indicators.macdHist, 35), (indicators.sma20, 20), (indicators.sma50, 50),
        (indicators.sma200, 200), (indicators.bbUpper, 20), (indicators.bbMiddle, 20),
        (indicators.bbLower, 20)], entry.1.isSome = true ↔ entry.2 ≤ closes.length := by
  obtain ⟨rsi, rsiOk, rsiPresent⟩ := presentFrom_computeRsiWilder closes (show 1 ≤ 14 by decide)
  obtain ⟨triple, macdOk, macdPresent⟩ := presentFrom_computeMacd closes
  obtain ⟨bands, bandsOk, bandsPresent⟩ :=
    presentFrom_computeBands sqrt closes (show 2 ≤ 20 by decide) 2
  obtain ⟨sma20, ok20, present20⟩ := presentFrom_computeSma closes (show 1 ≤ 20 by decide)
  obtain ⟨sma50, ok50, present50⟩ := presentFrom_computeSma closes (show 1 ≤ 50 by decide)
  obtain ⟨sma200, ok200, present200⟩ := presentFrom_computeSma closes (show 1 ≤ 200 by decide)
  unfold computeSnapshot
  rw [macdOk, bandsOk, rsiOk, ok20, ok50, ok200]
  refine ⟨_, rfl, rfl, ?_⟩
  simp only [List.mem_cons, List.not_mem_nil, or_false, forall_eq_or_imp, forall_eq,
    Option.isSome_map]
  exact ⟨rsiPresent, macdPresent, macdPresent, macdPresent, present20, present50, present200,
    bandsPresent, bandsPresent, bandsPresent⟩

end TaSnapshot

/-! ### The closes that are gathered -/

namespace TaComputer

/-- How the rows of a store read. -/
def hourReads (store : MarketDataStore) (symbol bucket : String) :
    Except PyError (List (String × CloseRead)) :=
  .ok ((store.getHour symbol bucket).entries.map fun entry => (entry.1, .close entry.2.closePrice))

/-- The symbol's stored bars of the hour of a moment and of the hours before it that
are looked at. -/
def recentBars (store : MarketDataStore) (symbol : String) (now : ℚ) : List StoredBar :=
  (storedBars store.table symbol).filter fun bar =>
    ⌊now⌋ / 3600 - barLookbackHours ≤ bar.lastTs / 3600 ∧ bar.lastTs / 3600 ≤ ⌊now⌋ / 3600

theorem closesFromHourMap_reads (store : MarketDataStore) (symbol : String) (h : Int) :
    closesFromHourMap ((store.getHour symbol (hourBucket h)).entries.map fun entry =>
        (entry.1, .close entry.2.closePrice)) =
      (store.barsInOrder symbol h).map (·.closePrice) := by
  unfold closesFromHourMap barsInOrder oldestFirst
  rw [← List.map_insertionSort (fun left right => left.1 ≤ right.1)
    (fun left right : String × CloseRead => left.1 ≤ right.1) _ _
    (fun _ _ _ _ => Iff.rfl), List.filterMap_map, List.map_map, ← List.filterMap_eq_map]
  rfl

/-- The hours that are looked at, and their bars in order. -/
theorem gatherRecentCloses_hourReads (store : MarketDataStore) (symbol : String) (now : ℚ) :
    gatherRecentCloses (hourReads store) symbol now =
      .ok ((lookbackOffsets.flatMap fun offset : Nat =>
        store.barsInOrder symbol (⌊now⌋ - offset * 3600)).map (·.closePrice)) := by
  have floors : ∀ offset : Nat, ⌊now - (offset : ℚ) * 3600⌋ = ⌊now⌋ - offset * 3600 := by
    intro offset
    have whole : now - (offset : ℚ) * 3600 = now - ((offset * 3600 : Int) : ℚ) := by
      push_cast
      ring
    rw [whole, Int.floor_sub_intCast]
  have read : lookbackOffsets.mapM (fun offset : Nat =>
      hourReads store symbol (hourBucket ⌊now - (offset : ℚ) * 3600⌋)) =
        .ok (lookbackOffsets.map fun offset : Nat =>
          (store.getHour symbol (hourBucket ⌊now - (offset : ℚ) * 3600⌋)).entries.map
            fun entry => (entry.1, .close entry.2.closePrice)) :=
    mapM_ok_of_forall fun _ _ => rfl
  unfold gatherRecentCloses
  rw [read]
  show Except.ok ((lookbackOffsets.map _).flatMap closesFromHourMap) = _
  rw [List.flatMap_map, List.map_flatMap]
  congr 1
  refine List.flatMap_congr fun offset _ => ?_
  rw [floors]
  exact closesFromHourMap_reads store symbol _

/-- Where bars are filed under their hours and minutes. -/
theorem gatherRecentCloses_of_filed {store : MarketDataStore} (filed : Filed store.table)
    (symbol : String) (now : ℚ) :
    ∃ bars : List StoredBar,
      gatherRecentCloses (hourReads store) symbol now = .ok (bars.map (·.closePrice)) ∧
      bars.Perm (recentBars store symbol now) ∧
      bars.Pairwise fun left right => left.lastTs < right.lastTs := by
  have ascending : (lookbackOffsets.flatMap fun offset : Nat =>
      store.barsInOrder symbol (⌊now⌋ - offset * 3600)).Pairwise
        fun left right => left.lastTs < right.lastTs := by
    rw [List.pairwise_flatMap]
    refine ⟨fun offset _ => filed.pairwise_barsInOrder symbol _, ?_⟩
    have descending : lookbackOffsets.Pairwise fun left right => right < left := by decide
    refine descending.imp fun {left right} order bar inLeft other inRight => ?_
    have leftHour := (filed.mem_hour_iff.mp (mem_barsInOrder.mp inLeft)).2
    have rightHour := (filed.mem_hour_iff.mp (mem_barsInOrder.mp inRight)).2
    omega
  refine ⟨_, gatherRecentCloses_hourReads store symbol now, ?_, ascending⟩
  refine (List.perm_ext_iff_of_nodup ?_ ((filed.nodup_storedBars symbol).filter _)).mpr
    fun bar => ?_
  · exact ascending.imp fun less same => absurd (congrArg StoredBar.lastTs same) (ne_of_lt less)
  · have offsets : ∀ offset, offset ∈ lookbackOffsets ↔ offset ≤ barLookbackHours := by
      intro offset
      unfold lookbackOffsets
      rw [List.mem_reverse, List.mem_range]
      omega
    simp only [List.mem_flatMap, mem_barsInOrder, filed.mem_hour_iff, offsets, List.mem_filter,
      decide_eq_true_eq]
    constructor
    · rintro ⟨offset, within, stored, hour⟩
      refine ⟨stored, ?_, ?_⟩ <;> omega
    · rintro ⟨stored, after, before⟩
      refine ⟨(⌊now⌋ / 3600 - bar.lastTs / 3600).toNat, ?_, stored, ?_⟩ <;> omega

/-- Whoever wrote the table, the closes that are gathered are those of the symbol's
stored bars of these hours, each once and in the order of their last ticks. -/
theorem gatherRecentCloses_exact {ι : Type} [DecidableEq ι] (events : List (Feed.Event ι))
    (retentionDays : Int) (buffer : Dict BufferKey (List MarketBar)) (symbol : String) (now : ℚ) :
    let store : MarketDataStore := { table := Feed.tableAfter events, retentionDays, buffer }
    ∃ bars : List StoredBar,
      gatherRecentCloses (hourReads store) symbol now = .ok (bars.map (·.closePrice)) ∧
      bars.Perm (recentBars store symbol now) ∧
      bars.Pairwise fun left right => left.lastTs < right.lastTs :=
  gatherRecentCloses_of_filed (Feed.filed_tableAfter events) symbol now

end TaComputer

end TradingStrands
