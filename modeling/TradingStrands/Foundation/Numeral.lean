import TradingStrands.Foundation.Decimal
import Mathlib.Order.Compare

/-!
Owns the full range of the decimal type: finite values, infinities and
not-a-number, how a finite decimal compares with each of them, and the parts
that the texts of numbers are made of. Digits are the ASCII ones here.
-/

namespace TradingStrands.Foundation

/-- A value of the decimal type, the special ones included. -/
inductive Numeral
  | finite (value : Decimal)
  | infinite (negative : Bool)
  | nan (signaling : Bool)
deriving DecidableEq, Repr

namespace Numeral

/-- How `value` stands to a numeral. Not-a-number has no order. -/
def compare? (value : Decimal) : Numeral → Option Ordering
  | .finite other => some (cmp value other)
  | .infinite negative => some (if negative = true then .gt else .lt)
  | .nan _ => none

/-! ### The parts of a text -/

def splitSign : List Char → Bool × List Char
  | '+' :: rest => (false, rest)
  | '-' :: rest => (true, rest)
  | rest => (false, rest)

def digitsValue (digits : List Char) : Nat :=
  digits.foldl (fun total digit => total * 10 + (digit.toNat - '0'.toNat)) 0

/-- A coefficient moved by a power of ten. -/
def scale (coefficient : Nat) : Int → Decimal
  | .ofNat power => coefficient * 10 ^ power
  | .negSucc power => coefficient / 10 ^ (power + 1)

/-- The exponent that ends a numeral, if what is left is one. -/
def exponentOf : List Char → Option Int
  | [] => some 0
  | 'e' :: rest =>
      let (negative, digits) := splitSign rest
      if digits = [] ∨ digits.all Char.isDigit = false then none
      else some (if negative = true then -digitsValue digits else digitsValue digits)
  | _ => none

end Numeral

end TradingStrands.Foundation
