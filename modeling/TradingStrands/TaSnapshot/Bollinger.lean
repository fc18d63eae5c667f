import TradingStrands.Foundation.Deviation
import Mathlib.Analysis.Real.Sqrt

/-!
Owns the bands around the mean of the last closes, two deviations away, and the
label of the last close that goes into the prompt. The label is taken from the
first comparison that fires, so where the bands coincide the label of a flat
series is never reached.

Closes are taken from an ordered field with a nonnegative root, which stands for
the program's root by way of a float. Its divisors are positive. Does not own:
the rest of the snapshot and its text.
-/

namespace TradingStrands.TaSnapshot

open TradingStrands.Foundation

/-! ### The label -/

/-- What `_fmt_bb_position` says of a close. -/
inductive BbPosition
  | unknown
  | belowLower
  | lowerThird
  | middleThird
  | flat
  | upperThird
  | aboveUpper
deriving DecidableEq, Repr

namespace BbPosition

/-- The text in the prompt. -/
def text : BbPosition → String
  | unknown => "—"
  | belowLower => "below lower band"
  | lowerThird => "lower third"
  | middleThird => "middle third"
  | flat => "at middle (flat)"
  | upperThird => "upper third"
  | aboveUpper => "above upper band"

/-- How high a close is. -/
def height : BbPosition → Nat
  | unknown => 0
  | belowLower => 0
  | lowerThird => 1
  | middleThird => 2
  | flat => 2
  | upperThird => 3
  | aboveUpper => 4

end BbPosition

/-! ### The bands -/

/-- `closes[-period:]` -/
def window {α : Type} (closes : List α) (period : Nat) : List α :=
  closes.drop (closes.length - period)

theorem length_window {α : Type} {closes : List α} {period : Nat}
    (enough : period ≤ closes.length) : (window closes period).length = period := by
  unfold window
  rw [List.length_drop]
  omega

theorem exists_last {α : Type} {closes : List α} {period : Nat} (positive : 1 ≤ period)
    (enough : period ≤ closes.length) :
    ∃ last ∈ window closes period, closes.getLast? = some last := by
  have ends : (window closes period).getLast? = closes.getLast? := by
    unfold window
    rw [List.getLast?_drop, if_neg (by omega)]
  cases last : (window closes period).getLast? with
  | none =>
      have empty := length_window enough
      rw [List.getLast?_eq_none_iff.mp last, List.length_nil] at empty
      omega
  | some last_ => exact ⟨last_, List.mem_of_getLast? last, ends.symm.trans last⟩

section Bands

variable {K : Type} [Field K] [LinearOrder K]

def fmtBbPosition (last upper middle lower : Option K) : BbPosition :=
  match last, upper, middle, lower with
  | some last, some upper, some _, some lower =>
      if upper ≤ last then .aboveUpper
      else if last ≤ lower then .belowLower
      else if upper - lower ≤ 0 then .flat
      else if lower + 2 * ((upper - lower) / 3) ≤ last then .upperThird
      else if lower + (upper - lower) / 3 ≤ last then .middleThird
      else .lowerThird
  | _, _, _, _ => .unknown

/-- The sample variance of a window of `period` closes. -/
def variance (closes : List K) (period : Nat) : K :=
  if period = 1 then 0 else squaredDeviations (closes.sum / period) closes / ((period - 1 : Nat) : K)

/-- The upper band, the middle and the lower band. -/
def computeBollinger (sqrt : Root K) (closes : List K) (period : Nat) (stdMult : K) :
    Option (K × K × K) :=
  if closes.length < period ∨ period = 0 then none
  else
    let mean := (window closes period).sum / period
    let stddev := sqrt.root (variance (window closes period) period)
    some (mean + stdMult * stddev, mean, mean - stdMult * stddev)

/-- The label of a snapshot of the closes, with the bands as they are by default. -/
def bbPosition (sqrt : Root K) (closes : List K) : BbPosition :=
  let bands := computeBollinger sqrt closes 20 2
  fmtBbPosition closes.getLast? (bands.map fun band => band.1) (bands.map fun band => band.2.1)
    (bands.map fun band => band.2.2)

theorem computeBollinger_eq (sqrt : Root K) {closes : List K} (enough : 20 ≤ closes.length) :
    computeBollinger sqrt closes 20 2 =
      some ((window closes 20).sum / (20 : Nat) + 2 * sqrt.root (variance (window closes 20) 20),
        (window closes 20).sum / (20 : Nat),
        (window closes 20).sum / (20 : Nat) - 2 * sqrt.root (variance (window closes 20) 20)) := by
  unfold computeBollinger
  rw [if_neg (by omega)]

variable [IsStrictOrderedRing K]

theorem variance_nonneg (closes : List K) (period : Nat) : 0 ≤ variance closes period := by
  unfold variance
  split_ifs with single
  · exact le_rfl
  · exact div_nonneg (squaredDeviations_nonneg _ closes) (Nat.cast_nonneg _)

/-- A window of several closes has no variance exactly if they are all equal. -/
theorem variance_eq_zero_iff {closes : List K} {period : Nat} (several : 2 ≤ period)
    (whole : closes.length = period) : variance closes period = 0 ↔ AllEqual closes := by
  have nonzero : ((period - 1 : Nat) : K) ≠ 0 := Nat.cast_ne_zero.mpr (by omega)
  unfold variance
  rw [if_neg (by omega), div_eq_zero_iff, or_iff_left nonzero, ← whole]
  exact squaredDeviations_mean_eq_zero_iff

/-! ### The order of the labels -/

/-- Between two bands that are apart the label does not fall as the close rises. -/
theorem height_fmtBbPosition_mono {upper middle lower low high : K} (apart : lower < upper)
    (rises : low ≤ high) :
    (fmtBbPosition (some low) (some upper) (some middle) (some lower)).height ≤
      (fmtBbPosition (some high) (some upper) (some middle) (some lower)).height := by
  have third : 0 < (upper - lower) / 3 := by
    have width : 0 < upper - lower := sub_pos.mpr apart
    positivity
  unfold fmtBbPosition
  dsimp only
  split_ifs <;> first | decide | (exfalso; linarith)

/-- A close between the bands shows that they are apart, so the comparison for a
flat series never fires. -/
theorem fmtBbPosition_ne_flat (last upper middle lower : Option K) :
    fmtBbPosition last upper middle lower ≠ .flat := by
  unfold fmtBbPosition
  split
  · split_ifs with above below narrow
    all_goals first | decide | skip
    exact absurd narrow (by linarith)
  · decide

/-! ### The label of a series -/

/-- What the label is to say of a series. -/
def LabelConsistent (sqrt : Root K) (closes : List K) : Prop :=
  ∃ upper middle lower last,
    computeBollinger sqrt closes 20 2 = some (upper, middle, lower) ∧
    closes.getLast? = some last ∧ lower ≤ middle ∧ middle ≤ upper ∧
    (bbPosition sqrt closes = .flat ↔ AllEqual (window closes 20)) ∧
    (¬ AllEqual (window closes 20) →
      (bbPosition sqrt closes = .aboveUpper ↔ upper ≤ last) ∧
        (bbPosition sqrt closes = .belowLower ↔ last ≤ lower)) ∧
    (lower < upper → ∀ low high, low ≤ high →
      (fmtBbPosition (some low) (some upper) (some middle) (some lower)).height ≤
        (fmtBbPosition (some high) (some upper) (some middle) (some lower)).height)

/-- Where the bands are apart, the label is at an end exactly if the close is at
or beyond a band. -/
theorem fmtBbPosition_ends {last upper middle lower : K} (apart : lower < upper) :
    (fmtBbPosition (some last) (some upper) (some middle) (some lower) = .aboveUpper ↔
        upper ≤ last) ∧
      (fmtBbPosition (some last) (some upper) (some middle) (some lower) = .belowLower ↔
        last ≤ lower) := by
  unfold fmtBbPosition
  dsimp only
  by_cases above : upper ≤ last
  · rw [if_pos above]
    exact ⟨iff_of_true rfl above, iff_of_false nofun (by linarith)⟩
  · rw [if_neg above]
    by_cases below : last ≤ lower
    · rw [if_pos below]
      exact ⟨iff_of_false nofun above, iff_of_true rfl below⟩
    · rw [if_neg below]
      refine ⟨iff_of_false ?_ above, iff_of_false ?_ below⟩
      all_goals split_ifs <;> decide

/-- Closes that are all equal are called a breakout: the bands coincide with the
last of them. -/
theorem bbPosition_of_allEqual (sqrt : Root K) {closes : List K} (enough : 20 ≤ closes.length)
    (same : AllEqual (window closes 20)) : bbPosition sqrt closes = .aboveUpper := by
  obtain ⟨last, member, isLast⟩ := exists_last (by decide) enough
  have whole := length_window enough
  have still : variance (window closes 20) 20 = 0 :=
    (variance_eq_zero_iff (by decide) whole).mpr same
  have middle := same.eq_mean member
  rw [whole] at middle
  unfold bbPosition
  rw [computeBollinger_eq sqrt enough, still, sqrt.root_zero, isLast, ← middle, mul_zero, add_zero]
  exact if_pos le_rfl

/-- The label is right exactly where the last twenty closes are not all equal. -/
theorem labelConsistent_iff (sqrt : Root K) {closes : List K} (enough : 20 ≤ closes.length) :
    LabelConsistent sqrt closes ↔ ¬ AllEqual (window closes 20) := by
  have notFlat : bbPosition sqrt closes ≠ .flat := fmtBbPosition_ne_flat _ _ _ _
  constructor
  · intro consistent same
    obtain ⟨upper, middle, lower, last, _, _, _, _, flat, _⟩ := consistent
    exact notFlat (flat.mpr same)
  · intro varied
    obtain ⟨last, _, isLast⟩ := exists_last (by decide) enough
    have spread : 0 < variance (window closes 20) 20 := by
      have nonzero := fun none => varied
        ((variance_eq_zero_iff (by decide) (length_window enough)).mp none)
      exact lt_of_le_of_ne (variance_nonneg _ _) (Ne.symm nonzero)
    have away := sqrt.root_pos spread
    have bands := computeBollinger_eq sqrt enough
    generalize sqrt.root (variance (window closes 20) 20) = stddev at bands away
    generalize (window closes 20).sum / ((20 : Nat) : K) = middle at bands
    have label : bbPosition sqrt closes = fmtBbPosition (some last) (some (middle + 2 * stddev))
        (some middle) (some (middle - 2 * stddev)) := by
      unfold bbPosition
      rw [bands, isLast]
      rfl
    have apart : middle - 2 * stddev < middle + 2 * stddev := by linarith
    refine ⟨_, middle, _, last, bands, isLast, by linarith, by linarith,
      iff_of_false notFlat varied, ?_, ?_⟩
    · intro _
      rw [label]
      exact fmtBbPosition_ends apart
    · intro _ low high rises
      exact height_fmtBbPosition_mono apart rises

end Bands

/-- The root of the real numbers. -/
noncomputable def realRoot : Root ℝ where
  root := Real.sqrt
  root_nonneg := Real.sqrt_nonneg
  root_mul_self _ nonneg := Real.mul_self_sqrt nonneg

theorem labelConsistent_iff_varied :
    LabelConsistent realRoot (1 :: List.replicate 19 2) ↔
      ¬ AllEqual (window (1 :: List.replicate 19 (2 : ℝ)) 20) :=
  labelConsistent_iff realRoot (by decide)

/-- A symbol that is halted for twenty closes. -/
theorem not_labelConsistent_halted : ¬ LabelConsistent realRoot (List.replicate 20 10) := by
  intro consistent
  obtain ⟨upper, middle, lower, last, _, _, _, _, flat, _⟩ := consistent
  have same : AllEqual (window (List.replicate 20 (10 : ℝ)) 20) := by
    intro left leftMember right rightMember
    rw [List.eq_of_mem_replicate (List.mem_of_mem_drop leftMember),
      List.eq_of_mem_replicate (List.mem_of_mem_drop rightMember)]
  have breakout := bbPosition_of_allEqual realRoot (by simp) same
  rw [breakout] at flat
  cases flat.mpr same

end TradingStrands.TaSnapshot
