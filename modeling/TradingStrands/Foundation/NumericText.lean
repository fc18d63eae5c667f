import TradingStrands.Foundation.Binary64
import TradingStrands.Foundation.Numeral
import Mathlib.Data.List.DropRight

/-!
Owns the readings of a text as a number. All of them strip spaces and take any
decimal digit. A float is rounded, has no payload on not-a-number, and its
underscores stand between digits; a decimal is exact, drops every underscore, and
has limits on its exponent. What counts as a space differs too: the separators
from U+001C to U+001F are spaces to a decimal only. What is read as a float is
read as a decimal from the same sign, digits and exponent.

The characters beyond ASCII that are digits or spaces are a parameter;
`Characters.unicode` is the table of Unicode 15.0.
-/

namespace TradingStrands.Foundation

/-! ### Stripping -/

section Trim

variable {α : Type} {blank finer : α → Bool} {items : List α}

/-- What is left without the blanks at both ends. -/
def trim (blank : α → Bool) (items : List α) : List α :=
  (items.dropWhile blank).rdropWhile blank

theorem dropWhile_dropWhile (sub : ∀ item, finer item = true → blank item = true)
    (items : List α) : (items.dropWhile finer).dropWhile blank = items.dropWhile blank := by
  induction items with
  | nil => rfl
  | cons item rest inductionHypothesis =>
      by_cases drops : finer item = true
      · rw [List.dropWhile_cons_of_pos drops, List.dropWhile_cons_of_pos (sub item drops),
          inductionHypothesis]
      · rw [List.dropWhile_cons_of_neg drops]

theorem rdropWhile_rdropWhile (sub : ∀ item, finer item = true → blank item = true)
    (items : List α) : (items.rdropWhile finer).rdropWhile blank = items.rdropWhile blank := by
  unfold List.rdropWhile
  rw [List.reverse_reverse, dropWhile_dropWhile sub]

/-- More blanks take no more away where none of them is left. -/
theorem trim_eq_trim (sub : ∀ item, finer item = true → blank item = true)
    (nonempty : trim finer items ≠ [])
    (visible : ∀ item ∈ trim finer items, blank item = true → finer item = true) :
    trim blank items = trim finer items := by
  have first : (items.dropWhile finer).dropWhile blank = items.dropWhile finer := by
    obtain ⟨tail, cut⟩ := List.rdropWhile_prefix finer (l := items.dropWhile finer)
    cases left : trim finer items with
    | nil => exact absurd left nonempty
    | cons head rest =>
        have starts : items.dropWhile finer = head :: (rest ++ tail) := by
          rw [← cut, ← List.cons_append, ← left]
          rfl
        have kept : ¬ finer head = true := by
          have notBlank := List.head?_dropWhile_not finer items
          rw [starts] at notBlank
          simpa using notBlank
        rw [starts, List.dropWhile_cons_of_neg fun drops =>
          kept (visible head (left ▸ List.mem_cons_self) drops)]
  have last : (trim finer items).rdropWhile blank = trim finer items :=
    List.rdropWhile_eq_self_iff.mpr fun hasLast drops =>
      List.rdropWhile_last_not _ _ hasLast (visible _ (List.getLast_mem hasLast) drops)
  unfold trim at last ⊢
  rw [rdropWhile_rdropWhile sub] at last
  rw [← dropWhile_dropWhile sub, first, last]

/-- Dropping what begins a list leaves everything that is not dropped. -/
theorem forall_mem_dropWhile :
    (∀ item ∈ items.dropWhile blank, blank item = true) ↔ ∀ item ∈ items, blank item = true := by
  constructor
  · intro rest item member
    rw [← List.takeWhile_append_dropWhile (p := blank) (l := items)] at member
    rcases List.mem_append.mp member with early | late
    · exact List.mem_takeWhile_imp early
    · exact rest item late
  · exact fun all item member => all item ((List.dropWhile_suffix blank).subset member)

theorem trim_eq_nil_iff : trim blank items = [] ↔ ∀ item ∈ items, blank item = true := by
  unfold trim
  rw [List.rdropWhile_eq_nil_iff, forall_mem_dropWhile]

/-- What is trimmed is blank if all of it was. -/
theorem forall_mem_trim :
    (∀ item ∈ trim blank items, blank item = true) ↔ ∀ item ∈ items, blank item = true := by
  unfold trim List.rdropWhile
  simp only [List.mem_reverse]
  rw [forall_mem_dropWhile]
  simp only [List.mem_reverse]
  exact forall_mem_dropWhile

end Trim

/-! ### Characters -/

/-- The digits and spaces beyond ASCII. -/
structure Characters where
  digit? : Char → Option (Fin 10)
  isSpace : Char → Bool

namespace Characters

/-- No digit and no space but those of ASCII. -/
def ascii : Characters where
  digit? _ := none
  isSpace _ := false

/-- The zeros of the decimal digits beyond ASCII; the other digits follow each. -/
def zeros : List Nat :=
  [0x660, 0x6F0, 0x7C0, 0x966, 0x9E6, 0xA66, 0xAE6, 0xB66, 0xBE6, 0xC66, 0xCE6, 0xD66, 0xDE6,
   0xE50, 0xED0, 0xF20, 0x1040, 0x1090, 0x17E0, 0x1810, 0x1946, 0x19D0, 0x1A80, 0x1A90, 0x1B50,
   0x1BB0, 0x1C40, 0x1C50, 0xA620, 0xA8D0, 0xA900, 0xA9D0, 0xA9F0, 0xAA50, 0xABF0, 0xFF10,
   0x104A0, 0x10D30, 0x11066, 0x110F0, 0x11136, 0x111D0, 0x112F0, 0x11450, 0x114D0, 0x11650,
   0x116C0, 0x11730, 0x118E0, 0x11950, 0x11C50, 0x11D50, 0x11DA0, 0x11F50, 0x16A60, 0x16AC0,
   0x16B50, 0x1D7CE, 0x1D7D8, 0x1D7E2, 0x1D7EC, 0x1D7F6, 0x1E140, 0x1E2F0, 0x1E4F0, 0x1E950,
   0x1FBF0]

/-- The digits and spaces of Unicode 15.0. -/
def unicode : Characters where
  digit? char :=
    (zeros.find? fun first => first ≤ char.toNat ∧ char.toNat < first + 10).map fun first =>
      Fin.ofNat 10 (char.toNat - first)
  isSpace char :=
    (8192 ≤ char.toNat && char.toNat ≤ 8202) ||
      [133, 160, 5760, 8232, 8233, 8239, 8287, 12288].contains char.toNat

variable (characters : Characters)

/-- What a decimal is stripped of. -/
def space (char : Char) : Bool :=
  if char.toNat < 128 then
    (9 ≤ char.toNat && char.toNat ≤ 13) || (28 ≤ char.toNat && char.toNat ≤ 32)
  else characters.isSpace char

/-- What a float and an integer are stripped of. -/
def numberSpace (char : Char) : Bool :=
  if char.toNat < 128 then (9 ≤ char.toNat && char.toNat ≤ 13) || char.toNat = 32
  else characters.isSpace char

/-- A digit as its ASCII digit, a letter of ASCII in lower case. -/
def fold (char : Char) : Char :=
  if char.toNat < 128 then char.toLower
  else
    match characters.digit? char with
    | none => char
    | some digit => Nat.digitChar digit

/-- The characters without underscores, folded. -/
def plain (chars : List Char) : List Char := (chars.filter (· ≠ '_')).map characters.fold

variable {characters}

theorem space_of_numberSpace {char : Char} (blank : characters.numberSpace char = true) :
    characters.space char = true := by
  unfold numberSpace at blank
  unfold space
  split
  · rw [if_pos ‹_›] at blank
    simp only [Bool.or_eq_true, Bool.and_eq_true, decide_eq_true_eq] at blank ⊢
    omega
  · rwa [if_neg ‹_›] at blank

/-- The separators are what the two kinds of space differ in, and folding leaves
them. -/
theorem fold_of_space {char : Char} (blank : characters.space char = true)
    (other : characters.numberSpace char = false) :
    characters.fold char = char ∧ char.toNat ≤ 32 := by
  unfold space at blank
  unfold numberSpace at other
  by_cases low : char.toNat < 128
  · rw [if_pos low] at blank other
    simp only [Bool.or_eq_true, Bool.and_eq_true, Bool.or_eq_false_iff, Bool.and_eq_false_iff,
      decide_eq_true_eq, decide_eq_false_iff_not] at blank other
    have control : char.toNat ≤ 32 := by omega
    refine ⟨?_, control⟩
    have noCapital : ¬ (char.val ≥ 'A'.val ∧ char.val ≤ 'Z'.val) := by
      intro ⟨first, _⟩
      have bound : 65 ≤ char.toNat := UInt32.le_iff_toNat_le.mp first
      omega
    unfold fold Char.toLower
    rw [if_pos low, dif_neg noCapital]
  · rw [if_neg low] at blank other
    exact absurd blank (ne_true_of_eq_false other)

end Characters

/-- A number as it is written. -/
inductive NumericLiteral
  | finite (negative : Bool) (coefficient : Nat) (exponent : Int)
  | infinite (negative : Bool)
  | nan (signaling : Bool)
deriving DecidableEq, Repr

namespace NumericLiteral

/-- The exact value of a sign, digits and an exponent. -/
def value (negative : Bool) (coefficient : Nat) (exponent : Int) : Decimal :=
  if negative = true then -Numeral.scale coefficient exponent
  else Numeral.scale coefficient exponent

/-! ### Grammars -/

/-- The digits after a point, and what follows. -/
def fractionOf : List Char → List Char × List Char
  | '.' :: tail => (tail.takeWhile Char.isDigit, tail.dropWhile Char.isDigit)
  | chars => ([], chars)

/-- Digits with an optional point and an optional exponent. -/
def unsignedOf (chars : List Char) : Option (Nat × Int) :=
  let whole := chars.takeWhile Char.isDigit
  let (fraction, rest) := fractionOf (chars.dropWhile Char.isDigit)
  if whole = [] ∧ fraction = [] then none
  else (Numeral.exponentOf rest).map fun exponent =>
    (Numeral.digitsValue (whole ++ fraction), exponent - fraction.length)

def isInfinity (body : List Char) : Prop :=
  body = ['i', 'n', 'f'] ∨ body = ['i', 'n', 'f', 'i', 'n', 'i', 't', 'y']

instance (body : List Char) : Decidable (isInfinity body) := inferInstanceAs (Decidable (_ ∨ _))

/-- The numbers that have digits. -/
def finiteOf (negative : Bool) (body : List Char) : Option NumericLiteral :=
  (unsignedOf body).map fun number => .finite negative number.1 number.2

/-- Each underscore has a digit before and a digit after it; `previous` is the
character before. -/
def underscoresAllowed (previous : Char) : List Char → Bool
  | [] => true
  | [last] => last ≠ '_'
  | char :: next :: rest =>
      (char ≠ '_' || (previous.isDigit && next.isDigit)) && underscoresAllowed char (next :: rest)

/-- What a float has after its sign. -/
def floatBody (negative : Bool) (body : List Char) : Option NumericLiteral :=
  if isInfinity body then some (.infinite negative)
  else if body = ['n', 'a', 'n'] then some (.nan false)
  else finiteOf negative body

/-- What a decimal has after its sign. -/
def decimalBody (negative : Bool) (body : List Char) : Option NumericLiteral :=
  if isInfinity body then some (.infinite negative)
  else
    match body with
    | 'n' :: 'a' :: 'n' :: payload =>
        if payload.all Char.isDigit = true then some (.nan false) else none
    | 's' :: 'n' :: 'a' :: 'n' :: payload =>
        if payload.all Char.isDigit = true then some (.nan true) else none
    | _ => finiteOf negative body

variable (characters : Characters)

/-- What a float is read from. -/
def ofFloatText? (text : String) : Option NumericLiteral :=
  let chars := trim characters.numberSpace text.toList
  if underscoresAllowed ' ' (chars.map characters.fold) = true then
    let (negative, body) := Numeral.splitSign (characters.plain chars)
    floatBody negative body
  else none

/-- What a decimal is read from. -/
def ofDecimalText? (text : String) : Option NumericLiteral :=
  let (negative, body) :=
    Numeral.splitSign (characters.plain (trim characters.space text.toList))
  decimalBody negative body

example : [" -1_5.25e1 ", "1__0", ".", "NAN", "sNaN"].map (ofFloatText? .ascii) =
    [some (.finite true 1525 (-1)), none, none, some (.nan false), none] := by
  decide +kernel

example : [" -1_5.25e1 ", "1__0", ".", "NAN", "sNaN"].map (ofDecimalText? .ascii) =
    [some (.finite true 1525 (-1)), some (.finite false 10 0), none, some (.nan false),
      some (.nan true)] := by
  decide +kernel

variable {characters}

theorem fractionOf_of_no_point {char : Char} (rest : List Char) (noPoint : char ≠ '.') :
    fractionOf (char :: rest) = ([], char :: rest) := by
  unfold fractionOf
  split
  · rename_i same
    exact absurd (List.cons.inj same).1 noPoint
  · rfl

/-- A number begins with a digit or a point. -/
theorem finiteOf_letter {negative : Bool} {letter : Char} (rest : List Char)
    (other : letter.isDigit = false) (noPoint : letter ≠ '.') :
    finiteOf negative (letter :: rest) = none := by
  unfold finiteOf unsignedOf
  rw [List.takeWhile_cons_of_neg (ne_true_of_eq_false other),
    List.dropWhile_cons_of_neg (ne_true_of_eq_false other), fractionOf_of_no_point rest noPoint]
  rfl

theorem decimalBody_of_floatBody {negative : Bool} {body : List Char} {literal : NumericLiteral}
    (read : floatBody negative body = some literal) : decimalBody negative body = some literal := by
  unfold floatBody at read
  unfold decimalBody
  split at read
  · rw [if_pos ‹_›]
    exact read
  · rw [if_neg ‹_›]
    split at read
    · rename_i name
      rw [name]
      exact read
    · split
      · rw [@finiteOf_letter _ 'n' _ rfl (by decide)] at read
        cases read
      · rw [@finiteOf_letter _ 's' _ rfl (by decide)] at read
        cases read
      · exact read

/-! ### What is read has no spaces -/

/-- No character is a space or a control. -/
def Visible (chars : List Char) : Prop := ∀ char ∈ chars, 32 < char.toNat

theorem visible_of_isDigit {chars : List Char}
    (digits : ∀ char ∈ chars, char.isDigit = true) : Visible chars := by
  intro char member
  obtain ⟨least, -⟩ := Char.isDigit_iff_toNat.mp (digits char member)
  exact lt_of_lt_of_le (by decide) least

theorem visible_of_all {chars : List Char}
    (all : (chars.all fun char => 32 < char.toNat) = true) : Visible chars :=
  fun char member => of_decide_eq_true (List.all_eq_true.mp all char member)

theorem Visible.append {left right : List Char} (first : Visible left) (second : Visible right) :
    Visible (left ++ right) :=
  fun char member => (List.mem_append.mp member).elim (first char) (second char)

theorem visible_of_splitSign {chars : List Char} (rest : Visible (Numeral.splitSign chars).2) :
    Visible chars := by
  unfold Numeral.splitSign at rest
  split at rest
  · exact List.forall_mem_cons.mpr ⟨by decide, rest⟩
  · exact List.forall_mem_cons.mpr ⟨by decide, rest⟩
  · exact rest

theorem visible_of_exponentOf {chars : List Char} {exponent : Int}
    (read : Numeral.exponentOf chars = some exponent) : Visible chars := by
  unfold Numeral.exponentOf at read
  split at read
  · exact List.forall_mem_nil _
  next rest =>
    dsimp only at read
    by_cases bad : (Numeral.splitSign rest).2 = [] ∨
        (Numeral.splitSign rest).2.all Char.isDigit = false
    · rw [if_pos bad] at read
      cases read
    push Not at bad
    have digits : Visible (Numeral.splitSign rest).2 :=
      visible_of_isDigit (List.all_eq_true.mp (Bool.eq_true_of_not_eq_false bad.2))
    exact List.forall_mem_cons.mpr ⟨by decide, visible_of_splitSign digits⟩
  · cases read

theorem visible_of_finiteOf {negative : Bool} {body : List Char} {literal : NumericLiteral}
    (read : finiteOf negative body = some literal) : Visible body := by
  have digits : ∀ chars : List Char, Visible (chars.takeWhile Char.isDigit) := fun chars =>
    visible_of_isDigit fun char => List.mem_takeWhile_imp
  have fraction : ∀ chars, Visible (fractionOf chars).1 ∧
      (Visible (fractionOf chars).2 → Visible chars) := by
    intro chars
    unfold fractionOf
    split
    next tail =>
      refine ⟨digits tail, fun rest => List.forall_mem_cons.mpr ⟨by decide, ?_⟩⟩
      rw [← List.takeWhile_append_dropWhile (p := Char.isDigit) (l := tail)]
      exact (digits tail).append rest
    · exact ⟨List.forall_mem_nil _, id⟩
  unfold finiteOf unsignedOf at read
  obtain ⟨number, numbers, -⟩ := Option.map_eq_some_iff.mp read
  dsimp only at numbers
  split_ifs at numbers
  obtain ⟨exponent, ends, -⟩ := Option.map_eq_some_iff.mp numbers
  rw [← List.takeWhile_append_dropWhile (p := Char.isDigit) (l := body)]
  exact (digits body).append ((fraction _).2 (visible_of_exponentOf ends))

theorem visible_of_floatBody {negative : Bool} {body : List Char} {literal : NumericLiteral}
    (read : floatBody negative body = some literal) : Visible body := by
  unfold floatBody at read
  split_ifs at read with infinite nan
  · rcases infinite with rfl | rfl
    · exact visible_of_all (by decide)
    · exact visible_of_all (by decide)
  · rw [nan]
    exact visible_of_all (by decide)
  · exact visible_of_finiteOf read

/-- What is read as a float is read as a decimal, from the same digits. -/
theorem ofDecimalText?_of_ofFloatText? {text : String} {literal : NumericLiteral}
    (read : ofFloatText? characters text = some literal) :
    ofDecimalText? characters text = some literal := by
  unfold ofFloatText? at read
  dsimp only at read
  split at read
  · have visible := visible_of_splitSign (visible_of_floatBody read)
    have same : trim characters.space text.toList = trim characters.numberSpace text.toList := by
      refine trim_eq_trim (fun _ => Characters.space_of_numberSpace) ?_ ?_
      · intro empty
        rw [empty] at read
        cases read
      · intro char member blank
        by_contra other
        obtain ⟨folded, control⟩ :=
          Characters.fold_of_space blank (Bool.eq_false_of_not_eq_true other)
        have notUnderscore : char ≠ '_' := by
          rintro rfl
          exact absurd control (by decide)
        have kept : char ∈ characters.plain (trim characters.numberSpace text.toList) :=
          List.mem_map.mpr ⟨char, List.mem_filter.mpr ⟨member, decide_eq_true notUnderscore⟩, folded⟩
        exact (visible char kept).not_ge control
    unfold ofDecimalText?
    rw [same]
    exact decimalBody_of_floatBody read
  · cases read

/-! ### Values -/

def toNumeral : NumericLiteral → Numeral
  | .finite negative coefficient exponent => .finite (value negative coefficient exponent)
  | .infinite negative => .infinite negative
  | .nan signaling => .nan signaling

def toBinary64 : NumericLiteral → Binary64
  | .finite negative coefficient exponent => .ofDecimal (value negative coefficient exponent)
  | .infinite negative => .infinite negative
  | .nan _ => .nan

/-- The largest exponent of the first digit of a decimal. -/
def maxExponent : Int := 999999999999999999

/-- The smallest exponent of the last digit of a decimal. -/
def minPlace : Int := -1999999999999999997

/-- A decimal can have these digits at this exponent. -/
def Representable (coefficient : Nat) (exponent : Int) : Prop :=
  exponent + Nat.log 10 coefficient ≤ maxExponent ∧ minPlace ≤ exponent

instance (coefficient : Nat) (exponent : Int) : Decidable (Representable coefficient exponent) :=
  inferInstanceAs (Decidable (_ ∧ _))

/-- What a decimal is constructed as; it is never rounded. -/
def toDecimal : NumericLiteral → Except PyError Numeral
  | .finite negative coefficient exponent =>
      if Representable coefficient exponent then
        .ok (.finite (value negative coefficient exponent))
      else .error .invalidOperation
  | literal => .ok literal.toNumeral

end NumericLiteral

/-- `float(text)`; nothing if the text is no float. -/
def float (characters : Characters) (text : String) : Option Binary64 :=
  (NumericLiteral.ofFloatText? characters text).map NumericLiteral.toBinary64

/-- `Decimal(text)`. -/
def decimal (characters : Characters) (text : String) : Except PyError Numeral :=
  match NumericLiteral.ofDecimalText? characters text with
  | none => .error .invalidOperation
  | some literal => literal.toDecimal

/-- The most digits the text of an integer may have. -/
def maxStrDigits : Nat := 4300

/-- `int(text)`; nothing if the text is no integer. Digits come in groups set apart
by underscores. -/
def integer (characters : Characters) (text : String) : Option Int :=
  let chars := (trim characters.numberSpace text.toList).map characters.fold
  let (negative, digits) := Numeral.splitSign chars
  let groups := digits.splitOn '_'
  if groups.all (fun group => group ≠ [] ∧ group.all Char.isDigit = true) = true ∧
      groups.flatten.length ≤ maxStrDigits then
    let value : Int := Numeral.digitsValue groups.flatten
    some (if negative = true then -value else value)
  else none

example : [" -1_50", "1__0", "0x1"].map (integer .ascii) = [some (-150), none, none] := by
  decide +kernel

example : decimal .unicode "\u00A0\uFF11\uFF10\u0660" = .ok (.finite 100) := by decide +kernel

/-- A separator is no space to a float, and is one to a decimal. -/
example : float .unicode "\x1c1" = none ∧ decimal .unicode "\x1c1" = .ok (.finite 1) := by
  decide +kernel

end TradingStrands.Foundation
