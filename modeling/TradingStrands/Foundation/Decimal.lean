import Mathlib.Data.Rat.Floor
import Mathlib.Algebra.Order.Field.Rat

/-!
Owns the arithmetic and error conventions of the modelled program: decimals as
exact rationals, fallible division, the percent rendering used in rejection
texts, and the exceptions an operation can raise. Not-a-number and infinite
decimals are not values of the modelled types, whose fields only hold finite
ones.

Does not own: the rounding of results to the digits of a decimal context.
-/

namespace TradingStrands.Foundation

/-- A finite decimal, computed with exactly. -/
abbrev Decimal : Type := ℚ

/-- A piece of a message; numbers are kept as numbers, since their rendering
depends on how many digits the decimal carries. -/
inductive MessagePart
  | text (text : String)
  | number (value : Decimal)
deriving DecidableEq, Repr

/-- An exception of the program or of a library it calls. -/
inductive PyError
  | valueError (message : List MessagePart)
  | keyError (key : String)
  | runtimeError (message : String)
  | brokerUnavailable (message : String)
  | typeError (message : String)
  | attributeError (message : String)
  | divisionByZero
  /-- A text that no decimal can be read from. -/
  | invalidOperation
  /-- Raised by a service the program calls. -/
  | external (message : String)
deriving DecidableEq, Repr

/-- Decimal division raises on a zero divisor. -/
def divide (numerator divisor : Decimal) : Except PyError Decimal :=
  if divisor = 0 then .error .divisionByZero else .ok (numerator / divisor)

theorem divide_of_ne_zero {numerator divisor : Decimal} (nonzero : divisor ≠ 0) :
    divide numerator divisor = .ok (numerator / divisor) :=
  if_neg nonzero

/-- Round a nonnegative value to the nearest integer, ties to the even one. -/
def roundHalfEven (value : Decimal) : Nat :=
  let below := value.floor.toNat
  let rest := value - below
  if rest < 1 / 2 then below
  else if 1 / 2 < rest then below + 1
  else if below % 2 = 0 then below
  else below + 1

/-- The `.2%` rendering of a decimal. -/
def formatPercent (value : Decimal) : String :=
  let hundredths := roundHalfEven (|value| * 10000)
  let fraction := hundredths % 100
  (if value < 0 then "-" else "") ++ toString (hundredths / 100) ++ "." ++
    (if fraction < 10 then "0" else "") ++ toString fraction ++ "%"

example : formatPercent (12345 / 100000) = "12.34%" := by decide +kernel

example : formatPercent (-1 / 20) = "-5.00%" := by decide +kernel

end TradingStrands.Foundation
