import TradingStrands.Foundation.NumericText
import TradingStrands.Ledger.Models

/-!
Owns the check of a strategy's capital and what the capital is used for. The
check reads the text as a float; the ledger is opened with the decimal that is
read from the same text. Where the two part ways, what the check has accepted is
not sound.
-/

namespace TradingStrands

open TradingStrands.Foundation

/-- `Ledger(starting_capital=capital)`, whose fields hold finite decimals only. -/
def Ledger.ofNumeral : Numeral → Except PyError Ledger
  | .finite capital => .ok (Ledger.ofCapital capital)
  | _ => .error (.valueError [.text "Input should be a finite number"])

namespace Capital

/-- A billion. -/
def cap : Decimal := 1000000000

/-- The capital itself if it is valid; `repr` quotes it in a message. -/
def validateCapital (characters : Characters) (repr : String → String) (value : String) :
    Except PyError String :=
  match float characters value with
  | none => .error (.valueError [.text ("capital must be a numeric string: " ++ repr value)])
  | some number =>
      if number.below 0 = true then
        .error (.valueError [.text ("capital must be non-negative, got " ++ repr value)])
      else if number.above cap = true then
        .error (.valueError [.text ("capital exceeds $1B cap: " ++ repr value)])
      else .ok value

/-- The ledger of a strategy with this capital, as each of the loaders opens it. -/
def openLedger (characters : Characters) (capital : String) : Except PyError Ledger := do
  let number ← decimal characters capital
  Ledger.ofNumeral number

/-- The decimal of the text is a finite number from zero to the cap, and a ledger
can be opened with it. -/
def Sound (characters : Characters) (capital : String) : Prop :=
  ∃ number, decimal characters capital = .ok (.finite number) ∧ 0 ≤ number ∧ number ≤ cap ∧
    openLedger characters capital = .ok (Ledger.ofCapital number)

/-! ### Where the readings part ways -/

/-- Half the smallest positive float. -/
def halfSmallest : Decimal := 1 / 2 * 2 ^ (-1074 : Int)

/-- Half the distance of the floats around the cap. -/
def halfPlace : Decimal := 1 / 2 * 2 ^ (-23 : Int)

/-- A negative number that is rounded to zero. -/
def Underflows (number : Decimal) : Prop := -halfSmallest ≤ number ∧ number < 0

/-- A number above the cap that is rounded to it. -/
def RoundsToCap (number : Decimal) : Prop := cap < number ∧ number ≤ cap + halfPlace

/-- A number from zero to the cap, written with an exponent that no decimal has. -/
def BeyondDecimals (negative : Bool) (coefficient : Nat) (exponent : Int) : Prop :=
  ¬ NumericLiteral.Representable coefficient exponent ∧
    0 ≤ NumericLiteral.value negative coefficient exponent ∧
    NumericLiteral.value negative coefficient exponent ≤ cap

/-- The text is not-a-number, or one of the numbers that the readings tell apart. -/
def Misread (characters : Characters) (capital : String) : Prop :=
  match NumericLiteral.ofFloatText? characters capital with
  | none => False
  | some (.infinite _) => False
  | some (.nan _) => True
  | some (.finite negative coefficient exponent) =>
      let number := NumericLiteral.value negative coefficient exponent
      Underflows number ∨ RoundsToCap number ∨ BeyondDecimals negative coefficient exponent

/-- The check lets a number through unless it is below zero by more than what is
rounded to zero, or above the cap by more than what is rounded to the cap. -/
theorem accepted_finite_iff (number : Decimal) :
    (Binary64.ofDecimal number).below 0 = false ∧ (Binary64.ofDecimal number).above cap = false ↔
      -halfSmallest ≤ number ∧ number ≤ cap + halfPlace := by
  have float : Binary64.IsFloat 8388608000000000 (-23) :=
    ⟨by norm_num, by norm_num, .inl (by norm_num)⟩
  have whole : cap = (8388608000000000 : Nat) * 2 ^ (-23 : Int) := by
    unfold cap
    norm_num
  have finite : (8388608000000000 : Nat) * (2 : Decimal) ^ (-23 : Int) < Binary64.overflow := by
    have small : cap < 2 ^ 30 := by
      unfold cap
      norm_num
    rw [← whole]
    exact small.trans_le (pow_le_pow_right₀ (by norm_num) (by norm_num))
  have above := Binary64.above_ofDecimal number float (by norm_num) finite
  have below := Binary64.below_zero_ofDecimal number
  have bound : ((8388608000000000 : Nat) + 1 / 2 : Decimal) * 2 ^ (-23 : Int) = cap + halfPlace := by
    rw [whole, add_mul]
    rfl
  rw [← whole, bound] at above
  rw [← Bool.not_eq_true, ← Bool.not_eq_true, below, above, not_lt, not_lt]
  rfl

variable {characters : Characters} {repr : String → String} {capital : String}

/-- The check accepts what is read as a float that is neither negative nor above
the cap. -/
theorem validateCapital_ok_iff :
    validateCapital characters repr capital = .ok capital ↔
      ∃ number, float characters capital = some number ∧ number.below 0 = false ∧
        number.above cap = false := by
  unfold validateCapital
  cases read : float characters capital with
  | none => exact iff_of_false nofun nofun
  | some number =>
      dsimp only
      constructor
      · intro accepted
        split_ifs at accepted with negative large
        exact ⟨number, rfl, Bool.eq_false_of_not_eq_true negative,
          Bool.eq_false_of_not_eq_true large⟩
      · intro ⟨_, same, nonneg, small⟩
        cases same
        rw [nonneg, small]
        rfl

/-- A decimal that is sound is a finite one in the range; the ledger follows. -/
theorem sound_iff : Sound characters capital ↔
    ∃ number, decimal characters capital = .ok (.finite number) ∧ 0 ≤ number ∧ number ≤ cap := by
  constructor
  · intro ⟨number, reads, nonneg, small, _⟩
    exact ⟨number, reads, nonneg, small⟩
  · intro ⟨number, reads, nonneg, small⟩
    refine ⟨number, reads, nonneg, small, ?_⟩
    unfold openLedger
    rw [reads]
    rfl

/-- The decimal of digits is sound if it can be constructed and is in the range. -/
theorem toDecimal_finite_iff {negative : Bool} {coefficient : Nat} {exponent : Int} :
    (∃ number, (NumericLiteral.finite negative coefficient exponent).toDecimal =
        .ok (.finite number) ∧ 0 ≤ number ∧ number ≤ cap) ↔
      NumericLiteral.Representable coefficient exponent ∧
        0 ≤ NumericLiteral.value negative coefficient exponent ∧
        NumericLiteral.value negative coefficient exponent ≤ cap := by
  unfold NumericLiteral.toDecimal
  dsimp only
  split_ifs with fits
  · rw [and_iff_right fits]
    constructor
    · intro ⟨_, same, range⟩
      cases same
      exact range
    · exact fun range => ⟨_, rfl, range⟩
  · exact iff_of_false nofun fun both => fits both.1

/-- What is let through is in the range and fits a decimal unless it is one of the
three kinds. -/
theorem range_sound_iff (number : Decimal) (fits : Prop) :
    (-halfSmallest ≤ number ∧ number ≤ cap + halfPlace → fits ∧ 0 ≤ number ∧ number ≤ cap) ↔
      ¬ (Underflows number ∨ RoundsToCap number ∨ ¬ fits ∧ 0 ≤ number ∧ number ≤ cap) := by
  have half : 0 ≤ halfSmallest := by
    unfold halfSmallest
    positivity
  have place : 0 ≤ halfPlace := by
    unfold halfPlace
    positivity
  have positive : 0 ≤ cap := by decide +kernel
  unfold Underflows RoundsToCap
  constructor
  · intro sound misread
    rcases misread with ⟨least, negative⟩ | ⟨large, most⟩ | ⟨beyond, nonneg, small⟩
    · exact negative.not_ge (sound ⟨least, by linarith⟩).2.1
    · exact large.not_ge (sound ⟨by linarith, most⟩).2.2
    · exact beyond (sound ⟨by linarith, by linarith⟩).1
  · intro read ⟨least, most⟩
    have nonneg := le_of_not_gt fun negative => read (.inl ⟨least, negative⟩)
    have small := le_of_not_gt fun large => read (.inr (.inl ⟨large, most⟩))
    exact ⟨by_contra fun beyond => read (.inr (.inr ⟨beyond, nonneg, small⟩)), nonneg, small⟩

/-- A valid capital is sound unless its text is misread. -/
theorem sound_of_valid_iff (characters : Characters) (repr : String → String) (capital : String) :
    (validateCapital characters repr capital = .ok capital → Sound characters capital) ↔
      ¬ Misread characters capital := by
  rw [validateCapital_ok_iff, sound_iff]
  unfold float Misread decimal
  cases read : NumericLiteral.ofFloatText? characters capital with
  | none => exact iff_of_true nofun id
  | some literal =>
      rw [NumericLiteral.ofDecimalText?_of_ofFloatText? read]
      cases literal with
      | infinite negative =>
          refine iff_of_true ?_ id
          intro ⟨number, same, nonneg, small⟩
          cases same
          cases negative
          · cases small
          · cases nonneg
      | nan signaling =>
          refine iff_of_false ?_ (not_not_intro trivial)
          intro sound
          obtain ⟨_, reads, _⟩ := sound ⟨.nan, rfl, rfl, rfl⟩
          cases reads
      | finite negative coefficient exponent =>
          have range := accepted_finite_iff (NumericLiteral.value negative coefficient exponent)
          have reads := @toDecimal_finite_iff negative coefficient exponent
          have accepted : (∃ number, some (Binary64.ofDecimal
              (NumericLiteral.value negative coefficient exponent)) = some number ∧
                number.below 0 = false ∧ number.above cap = false) ↔
              -halfSmallest ≤ NumericLiteral.value negative coefficient exponent ∧
                NumericLiteral.value negative coefficient exponent ≤ cap + halfPlace := by
            rw [← range]
            constructor
            · intro ⟨_, same, checks⟩
              cases same
              exact checks
            · exact fun checks => ⟨_, rfl, checks⟩
          show ((∃ number, some (Binary64.ofDecimal _) = some number ∧ _) → _) ↔ _
          rw [accepted]
          dsimp only
          rw [reads]
          exact range_sound_iff _ _

example : validateCapital .ascii id "1000000000.00000001" = .ok "1000000000.00000001" := by
  decide +kernel

example : validateCapital .ascii id "-1e-400" = .ok "-1e-400" := by decide +kernel

/-- Not-a-number is a valid capital, and no ledger can be opened with it. -/
theorem not_sound_nan : validateCapital .ascii id "nan" = .ok "nan" ∧
    ¬ Sound .ascii "nan" ∧
    openLedger .ascii "nan" = .error (.valueError [.text "Input should be a finite number"]) := by
  refine ⟨by decide +kernel, ?_, by decide +kernel⟩
  intro ⟨number, reads, _⟩
  have nan : decimal .ascii "nan" = .ok (.nan false) := by decide +kernel
  cases reads.symm.trans nan

end Capital

end TradingStrands
