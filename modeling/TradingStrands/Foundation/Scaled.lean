import TradingStrands.Foundation.Rounding
import Mathlib.Algebra.BigOperators.Group.List.Basic
import Mathlib.Algebra.Order.Field.Basic

/-!
Owns decimals with the digits they carry: a coefficient and an exponent, so that
`3` and `3.0` are one value in two forms. An exact sum carries the finest place of
its terms; its form is settled by its value and that place, and so does not depend
on the order of the terms. A sum of the decimal context is rounded to 28 digits
after each term, and is the exact one while these suffice. Texts are the
scientific ones.

Does not own: the exponents beyond which a context has no results, and a zero with
a sign, which no sum that starts from zero has.
-/

namespace TradingStrands.Foundation

/-- A decimal as it is carried: `coefficient` times ten to the `exponent`. -/
structure Scaled where
  coefficient : Int
  exponent : Int
deriving DecidableEq, Repr

namespace Scaled

def value (scaled : Scaled) : Decimal := scaled.coefficient * 10 ^ scaled.exponent

/-- `Decimal("0")` -/
def zero : Scaled := ⟨0, 0⟩

/-- The coefficient at a place that is no coarser than the number's own. -/
def coefficientAt (scaled : Scaled) (place : Int) : Int :=
  scaled.coefficient * 10 ^ (scaled.exponent - place).toNat

/-- A sum is carried at the finer of the two places. -/
def add (left right : Scaled) : Scaled :=
  let place := min left.exponent right.exponent
  ⟨left.coefficientAt place + right.coefficientAt place, place⟩

def sum (start : Scaled) (terms : List Scaled) : Scaled := terms.foldl add start

/-- Two decimals of one value and one exponent are carried alike. -/
theorem ext_value {left right : Scaled} (values : left.value = right.value)
    (exponents : left.exponent = right.exponent) : left = right := by
  obtain ⟨coefficient, exponent⟩ := left
  obtain ⟨other, place⟩ := right
  obtain rfl : exponent = place := exponents
  have power : (10 : Decimal) ^ exponent ≠ 0 := zpow_ne_zero _ (by norm_num)
  have same : (coefficient : Decimal) = other := mul_right_cancel₀ power values
  rw [Int.cast_injective same]

@[simp] theorem value_zero : zero.value = 0 := by
  unfold value zero
  exact (congrArg (· * _) Int.cast_zero).trans (zero_mul _)

theorem coefficientAt_value {scaled : Scaled} {place : Int} (finer : place ≤ scaled.exponent) :
    (scaled.coefficientAt place : Decimal) * 10 ^ place = scaled.value := by
  obtain ⟨steps, split⟩ := Int.eq_ofNat_of_zero_le (Int.sub_nonneg.mpr finer)
  have exponent : scaled.exponent = steps + place := by omega
  unfold coefficientAt value
  rw [split, Int.toNat_natCast, exponent, zpow_add₀ (by norm_num), zpow_natCast]
  push_cast
  ring

theorem value_add (left right : Scaled) : (left.add right).value = left.value + right.value := by
  have lefts := coefficientAt_value (min_le_left left.exponent right.exponent)
  have rights := coefficientAt_value (min_le_right left.exponent right.exponent)
  rw [← lefts, ← rights, ← add_mul]
  unfold value add
  push_cast
  rfl

theorem value_sum (start : Scaled) (terms : List Scaled) :
    (sum start terms).value = start.value + (terms.map value).sum := by
  induction terms generalizing start with
  | nil => exact (add_zero _).symm
  | cons term rest inductionHypothesis =>
      show (sum (start.add term) rest).value = _
      rw [inductionHypothesis, value_add, List.map_cons, List.sum_cons, add_assoc]

theorem exponent_sum (start : Scaled) (terms : List Scaled) :
    (sum start terms).exponent = (terms.map exponent).foldl min start.exponent := by
  induction terms generalizing start with
  | nil => rfl
  | cons term rest inductionHypothesis =>
      show (sum (start.add term) rest).exponent = _
      rw [inductionHypothesis]
      rfl

/-- The order of the terms does not matter, not even to the digits. -/
theorem sum_perm (start : Scaled) {left right : List Scaled} (permutation : left.Perm right) :
    sum start left = sum start right := by
  refine ext_value ?_ ?_
  · rw [value_sum, value_sum, (permutation.map value).sum_eq]
  · rw [exponent_sum, exponent_sum, (permutation.map exponent).foldl_eq]

/-! ### Sums of the context -/

/-- The default context keeps all of the digits. -/
def Fits (scaled : Scaled) : Prop := scaled.coefficient.natAbs < 10 ^ precision

instance (scaled : Scaled) : Decidable scaled.Fits := inferInstanceAs (Decidable (_ < _))

/-- The nearest decimal of 28 digits, ties to the even one. A coefficient that is
rounded up to one digit more gives it up again. -/
def round (scaled : Scaled) : Scaled :=
  if scaled.Fits then scaled
  else
    let drop := Nat.log 10 scaled.coefficient.natAbs + 1 - precision
    let kept := roundHalfEven (scaled.coefficient.natAbs / 10 ^ drop)
    if kept < 10 ^ precision then ⟨scaled.coefficient.sign * kept, scaled.exponent + drop⟩
    else ⟨scaled.coefficient.sign * 10 ^ (precision - 1), scaled.exponent + drop + 1⟩

/-- `left + right`. -/
def plus (left right : Scaled) : Scaled := (left.add right).round

def total (start : Scaled) (terms : List Scaled) : Scaled := terms.foldl plus start

/-- The context keeps all of the digits of every sum on the way. -/
def Unrounded (start : Scaled) : List Scaled → Prop
  | [] => True
  | term :: rest => (start.add term).Fits ∧ Unrounded (start.add term) rest

instance decidableUnrounded : (start : Scaled) → (terms : List Scaled) →
    Decidable (Unrounded start terms)
  | _, [] => inferInstanceAs (Decidable True)
  | start, term :: rest =>
      have := decidableUnrounded (start.add term) rest
      inferInstanceAs (Decidable ((start.add term).Fits ∧ Unrounded (start.add term) rest))

theorem abs_value (scaled : Scaled) :
    |scaled.value| = scaled.coefficient.natAbs * (10 : Decimal) ^ scaled.exponent := by
  unfold value
  rw [abs_mul, abs_of_pos (by positivity : (0 : Decimal) < 10 ^ scaled.exponent), ← Int.cast_abs,
    Int.abs_eq_natAbs, Int.cast_natCast]

theorem value_neg_iff (scaled : Scaled) : scaled.value < 0 ↔ scaled.coefficient < 0 := by
  have power : (0 : Decimal) < 10 ^ scaled.exponent := by positivity
  unfold value
  rw [← Int.cast_lt_zero (R := Decimal)]
  exact ⟨fun negative => neg_of_mul_neg_left negative power.le,
    fun negative => mul_neg_of_neg_of_pos negative power⟩

theorem log_abs_value {scaled : Scaled} (nonzero : scaled.coefficient ≠ 0) :
    Int.log 10 |scaled.value| = Nat.log 10 scaled.coefficient.natAbs + scaled.exponent := by
  have power : (0 : Decimal) < 10 ^ scaled.exponent := by positivity
  have magnitude := scaled.abs_value
  have some : scaled.coefficient.natAbs ≠ 0 := Int.natAbs_ne_zero.mpr nonzero
  have positive : 0 < |scaled.value| := by
    rw [magnitude]
    exact mul_pos (Nat.cast_pos.mpr (Nat.pos_of_ne_zero some)) power
  have least : (10 : Decimal) ^ Nat.log 10 scaled.coefficient.natAbs ≤
      scaled.coefficient.natAbs := by
    exact_mod_cast Nat.pow_log_le_self 10 some
  have most : (scaled.coefficient.natAbs : Decimal) <
      10 ^ (Nat.log 10 scaled.coefficient.natAbs + 1) := by
    exact_mod_cast Nat.lt_pow_succ_log_self (by norm_num) scaled.coefficient.natAbs
  refine le_antisymm (Int.lt_add_one_iff.mp ?_) ?_
  · refine (Int.lt_zpow_iff_log_lt (by norm_num) positive).mp ?_
    rw [magnitude, Nat.cast_ofNat, add_right_comm, zpow_add₀ (by norm_num)]
    exact mul_lt_mul_of_pos_right (by exact_mod_cast most) power
  · refine (Int.zpow_le_iff_le_log (by norm_num) positive).mp ?_
    rw [magnitude, Nat.cast_ofNat, zpow_add₀ (by norm_num), zpow_natCast]
    exact mul_le_mul_of_nonneg_right least power.le

/-- The magnitude in units of a coarser place. -/
theorem abs_value_div (scaled : Scaled) (drop : Nat) :
    |scaled.value| / 10 ^ (scaled.exponent + drop : Int) =
      (scaled.coefficient.natAbs / 10 ^ drop : Decimal) := by
  rw [scaled.abs_value, zpow_add₀ (by norm_num), zpow_natCast, mul_comm,
    mul_div_mul_left _ _ (by positivity)]

/-- What is kept has the same value if it gives up a digit again. -/
theorem value_kept (scaled : Scaled) (drop : Nat) {kept : Nat} (most : kept ≤ 10 ^ precision) :
    (if kept < 10 ^ precision then
        (⟨scaled.coefficient.sign * kept, scaled.exponent + drop⟩ : Scaled)
      else ⟨scaled.coefficient.sign * 10 ^ (precision - 1), scaled.exponent + drop + 1⟩).value =
        scaled.coefficient.sign * (kept * (10 : Decimal) ^ (scaled.exponent + drop : Int)) := by
  unfold value
  split_ifs with short
  · push_cast
    ring
  · rw [le_antisymm most (not_lt.mp short), zpow_add_one₀ (by norm_num)]
    unfold precision
    push_cast
    ring

/-- A coefficient that does not fit drops the digits it has too many. -/
theorem exists_drop {scaled : Scaled} (large : 10 ^ precision ≤ scaled.coefficient.natAbs) :
    ∃ drop, Nat.log 10 scaled.coefficient.natAbs + 1 = drop + precision ∧
      scaled.coefficient.natAbs < 10 ^ precision * 10 ^ drop := by
  obtain ⟨drop, digits⟩ : ∃ drop, Nat.log 10 scaled.coefficient.natAbs + 1 = drop + precision :=
    Nat.exists_eq_add_of_le' (Nat.le_succ_of_le (Nat.le_log_of_pow_le (by norm_num) large))
  refine ⟨drop, digits, ?_⟩
  rw [← pow_add, add_comm, ← digits]
  exact Nat.lt_pow_succ_log_self (by norm_num) _

/-- What is carried is rounded as its value is. -/
theorem value_round (scaled : Scaled) : scaled.round.value = roundTo precision scaled.value := by
  unfold round
  split_ifs with fits
  · exact (roundTo_eq_self ⟨scaled.coefficient, scaled.exponent, fits, rfl⟩).symm
  · have large : 10 ^ precision ≤ scaled.coefficient.natAbs := not_lt.mp fits
    have nonzero : scaled.coefficient ≠ 0 := by
      rintro zero
      rw [zero] at large
      exact absurd large (by decide)
    obtain ⟨drop, digits, short⟩ := exists_drop large
    have place : lastPlace precision scaled.value = scaled.exponent + drop := by
      unfold lastPlace
      rw [log_abs_value nonzero]
      omega
    have small : (scaled.coefficient.natAbs / 10 ^ drop : Decimal) ≤ (10 ^ precision : Nat) := by
      rw [div_le_iff₀ (by positivity)]
      exact_mod_cast short.le
    have dropped : Nat.log 10 scaled.coefficient.natAbs + 1 - precision = drop := by omega
    rw [dropped]
    dsimp only
    rw [value_kept scaled drop (roundHalfEven_le_of_le (by positivity) small)]
    unfold roundTo
    dsimp only
    rw [place, abs_value_div]
    rcases lt_or_gt_of_ne nonzero with negative | positive
    · rw [if_pos (scaled.value_neg_iff.mpr negative), Int.sign_eq_neg_one_of_neg negative]
      push_cast
      ring
    · rw [if_neg (scaled.value_neg_iff.not.mpr positive.not_gt), Int.sign_eq_one_of_pos positive]
      push_cast
      ring

/-- A sum of carried decimals has the value that the context gives to the sum. -/
theorem value_plus (left right : Scaled) :
    (left.plus right).value = DecimalContext.default.add left.value right.value := by
  unfold plus
  rw [value_round, value_add]
  rfl

theorem value_total (start : Scaled) (terms : List Scaled) :
    (total start terms).value = (terms.map value).foldl DecimalContext.default.add start.value := by
  induction terms generalizing start with
  | nil => rfl
  | cons term rest inductionHypothesis =>
      show (total (start.plus term) rest).value = _
      rw [inductionHypothesis, value_plus]
      rfl

theorem plus_eq_add {left right : Scaled} (fits : (left.add right).Fits) :
    left.plus right = left.add right := if_pos fits

theorem total_eq_sum {start : Scaled} {terms : List Scaled} (unrounded : Unrounded start terms) :
    total start terms = sum start terms := by
  induction terms generalizing start with
  | nil => rfl
  | cons term rest inductionHypothesis =>
      show total (start.plus term) rest = sum (start.add term) rest
      rw [plus_eq_add unrounded.1]
      exact inductionHypothesis unrounded.2

theorem total_concat (start : Scaled) (terms : List Scaled) (last : Scaled) :
    total start (terms ++ [last]) = (total start terms).plus last := by
  unfold total
  rw [List.foldl_concat]

/-- A half of the last place is rounded to the even neighbour, and lost; two halves
together are not. -/
example : total ⟨1, 0⟩ [⟨5, -28⟩, ⟨5, -28⟩] = ⟨10 ^ 27, -27⟩ ∧
    total ⟨5, -28⟩ [⟨5, -28⟩, ⟨1, 0⟩] = ⟨10 ^ 27 + 1, -27⟩ := by
  decide +kernel

/-! ### The text -/

/-- `str(scaled)`: in full if the exponent is not positive and the number is not
too small, else with one digit before the point and an exponent. -/
def text (scaled : Scaled) : String :=
  let digits := (toString scaled.coefficient.natAbs).toList
  let left := scaled.exponent + digits.length
  let point := if scaled.exponent ≤ 0 ∧ -6 < left then left else 1
  let body :=
    if point ≤ 0 then '0' :: '.' :: List.replicate (-point).toNat '0' ++ digits
    else if digits.length ≤ point then digits ++ List.replicate (point - digits.length).toNat '0'
    else digits.take point.toNat ++ '.' :: digits.drop point.toNat
  let power := left - point
  (if scaled.coefficient < 0 then "-" else "") ++ String.ofList body ++
    if power = 0 then "" else (if power < 0 then "E" else "E+") ++ toString power

example : [text ⟨30, -1⟩, text ⟨3, 0⟩, text ⟨-5, -3⟩, text ⟨12, 3⟩, text ⟨1, -9⟩] =
    ["3.0", "3", "-0.005", "1.2E+4", "1E-9"] := by
  decide +kernel

end Scaled

end TradingStrands.Foundation
