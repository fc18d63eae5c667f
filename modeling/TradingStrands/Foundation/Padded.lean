import Mathlib.Data.String.Basic
import Mathlib.Data.List.Basic

/-!
Owns integers as texts of at least a given width, filled with zeros after the
sign, and as texts without padding, which are those of width zero. A padded numeral
is read back, so equal texts are of equal numbers, and a small number fills its
width exactly.
-/

namespace TradingStrands.Foundation

/-- The digits of a number, at least `width` of them. -/
def paddedDigits (width number : Nat) : List Char :=
  List.replicate (width - (Nat.toDigits 10 number).length) '0' ++ Nat.toDigits 10 number

/-- The digits of an integer after its sign; the sign is part of the width. -/
def paddedInt (width : Nat) : Int → List Char
  | .ofNat number => paddedDigits width number
  | .negSucc number => '-' :: paddedDigits (width - 1) (number + 1)

theorem paddedDigits_inj {width left right : Nat}
    (same : paddedDigits width left = paddedDigits width right) : left = right := by
  have reads : ∀ number, Nat.ofDigitChars 10 (paddedDigits width number) 0 = number := by
    intro number
    unfold paddedDigits
    rw [Nat.ofDigitChars_append, Nat.ofDigitChars_replicate_zero, Nat.mul_zero,
      Nat.ofDigitChars_ten_toDigits]
  rw [← reads left, same, reads]

theorem isDigit_of_mem_paddedDigits {width number : Nat} {char : Char}
    (member : char ∈ paddedDigits width number) : char.isDigit = true := by
  rcases List.mem_append.mp member with zero | digit
  · rw [List.eq_of_mem_replicate zero]
    rfl
  · exact Nat.isDigit_of_mem_toDigits (by decide) (by decide) digit

theorem length_paddedDigits {width number : Nat} (positive : 0 < width)
    (fits : number < 10 ^ width) : (paddedDigits width number).length = width := by
  have short := (Nat.length_toDigits_le_iff (by decide) positive).mpr fits
  unfold paddedDigits
  rw [List.length_append, List.length_replicate]
  omega

theorem paddedInt_inj {width : Nat} {left right : Int}
    (same : paddedInt width left = paddedInt width right) : left = right := by
  have apart : ∀ other number, paddedDigits width other ≠
      '-' :: paddedDigits (width - 1) number := by
    intro other number equal
    have digit : ('-' : Char).isDigit = true :=
      isDigit_of_mem_paddedDigits (equal ▸ List.mem_cons_self)
    exact absurd digit (by decide)
  cases left with
  | ofNat left =>
      cases right with
      | ofNat right => rw [paddedDigits_inj same]
      | negSucc right => exact absurd same (apart left _)
  | negSucc left =>
      cases right with
      | ofNat right => exact absurd same.symm (apart right _)
      | negSucc right =>
          have digits := paddedDigits_inj (List.cons.inj same).2
          rw [Nat.add_right_cancel digits]

/-- A padded numeral holds digits and a sign. -/
theorem mem_paddedInt {width : Nat} {number : Int} {char : Char}
    (member : char ∈ paddedInt width number) : char = '-' ∨ char.isDigit = true := by
  cases number with
  | ofNat number => exact Or.inr (isDigit_of_mem_paddedDigits member)
  | negSucc number =>
      rcases List.mem_cons.mp member with rfl | digit
      · exact Or.inl rfl
      · exact Or.inr (isDigit_of_mem_paddedDigits digit)

/-! ### Without padding -/

theorem toList_natText (number : Nat) : (toString number).toList = paddedDigits 0 number := by
  have digits : (toString number).toList = Nat.toDigits 10 number := Nat.toList_repr
  rw [digits]
  unfold paddedDigits
  rw [Nat.zero_sub]
  rfl

theorem toList_intText (number : Int) : (toString number).toList = paddedInt 0 number := by
  cases number with
  | ofNat size => exact toList_natText size
  | negSucc size =>
      have signed : (toString (Int.negSucc size)).toList =
          '-' :: (toString (size + 1)).toList := String.toList_append
      rw [signed, toList_natText]
      rfl

theorem natText_inj {left right : Nat} (same : toString left = toString right) : left = right := by
  have chars := congrArg String.toList same
  rw [toList_natText, toList_natText] at chars
  exact paddedDigits_inj chars

theorem intText_inj {left right : Int} (same : toString left = toString right) : left = right := by
  have chars := congrArg String.toList same
  rw [toList_intText, toList_intText] at chars
  exact paddedInt_inj chars

end TradingStrands.Foundation
