import TradingStrands.Ir.Condition

/-!
Owns what a predicate answers where none of its fields has a value. A leaf is
false there, and the connectives are read over that: the predicate is false
exactly if its form needs a leaf to hold (`NeedsData`). Without a `not` that is
so as soon as every `and` and `or` has a leaf below it; a `not` turns it round.
-/

namespace TradingStrands.Condition

open TradingStrands.Foundation
open TradingStrands.Tta

mutual

/-- The fields that the leaves mention. -/
def fields : Condition → List String
  | .compare field _ _ => [field]
  | .cross _ field _ => [field]
  | .all conditions => fieldsOf conditions
  | .any conditions => fieldsOf conditions
  | .negation condition => fields condition

def fieldsOf : List Condition → List String
  | [] => []
  | condition :: rest => fields condition ++ fieldsOf rest

end

mutual

/-- The form does not hold unless a leaf does: a leaf itself, an `and` with such an
operand, an `or` with such operands only, a `not` of a form that is not such. -/
def NeedsData : Condition → Prop
  | .compare _ _ _ => True
  | .cross _ _ _ => True
  | .all conditions => SomeNeedData conditions
  | .any conditions => AllNeedData conditions
  | .negation condition => ¬ NeedsData condition

def SomeNeedData : List Condition → Prop
  | [] => False
  | condition :: rest => NeedsData condition ∨ SomeNeedData rest

def AllNeedData : List Condition → Prop
  | [] => True
  | condition :: rest => NeedsData condition ∧ AllNeedData rest

end

mutual

/-- Every `and` and every `or` has a leaf below it. -/
def Leafy : Condition → Prop
  | .compare _ _ _ => True
  | .cross _ _ _ => True
  | .all conditions => fieldsOf conditions ≠ [] ∧ AllLeafy conditions
  | .any conditions => fieldsOf conditions ≠ [] ∧ AllLeafy conditions
  | .negation condition => Leafy condition

def AllLeafy : List Condition → Prop
  | [] => True
  | condition :: rest => Leafy condition ∧ AllLeafy rest

end

mutual

/-- No `not` in the form. -/
def Positive : Condition → Prop
  | .compare _ _ _ => True
  | .cross _ _ _ => True
  | .all conditions => AllPositive conditions
  | .any conditions => AllPositive conditions
  | .negation _ => False

def AllPositive : List Condition → Prop
  | [] => True
  | condition :: rest => Positive condition ∧ AllPositive rest

end

/-- Neither context has any of the fields. -/
def Absent (ctx : Context) (prevCtx : Option Context) (fields : List String) : Prop :=
  ∀ field ∈ fields, ctx.get? field = none ∧
    ∀ before, prevCtx = some before → before.get? field = none

theorem absent_append {ctx : Context} {prevCtx : Option Context} {left right : List String} :
    Absent ctx prevCtx (left ++ right) ↔ Absent ctx prevCtx left ∧ Absent ctx prevCtx right := by
  exact List.forall_mem_append

section Without

variable {ctx : Context} {prevCtx : Option Context}

mutual

/-- Without data a form holds exactly if it needs none. -/
theorem holds_of_absent : ∀ condition : Condition, Absent ctx prevCtx condition.fields →
    (condition.Holds ctx prevCtx ↔ ¬ condition.NeedsData)
  | .compare field op value, absent => by
      have missing := (absent field (by simp [fields])).1
      show (∃ actual, ctx.get? field = some actual ∧ _) ↔ ¬ True
      refine iff_of_false ?_ (not_not.mpr trivial)
      intro holds
      obtain ⟨actual, found, _⟩ := holds
      rw [missing] at found
      cases found
  | .cross direction field value, absent => by
      have missing := (absent field (by simp [fields])).1
      show (∃ before previous current, _ ∧ _ ∧ ctx.get? field = some current ∧ _) ↔ ¬ True
      refine iff_of_false ?_ (not_not.mpr trivial)
      intro holds
      obtain ⟨before, previous, current, _, _, found, _⟩ := holds
      rw [missing] at found
      cases found
  | .all conditions, absent => allHold_of_absent conditions absent
  | .any conditions, absent => anyHolds_of_absent conditions absent
  | .negation condition, absent => by
      have inner := holds_of_absent condition absent
      show ¬ condition.Holds ctx prevCtx ↔ ¬ ¬ condition.NeedsData
      rw [inner]

theorem allHold_of_absent : ∀ conditions : List Condition,
    Absent ctx prevCtx (fieldsOf conditions) →
      (AllHold ctx prevCtx conditions ↔ ¬ SomeNeedData conditions)
  | [], _ => by
      show True ↔ ¬ False
      simp
  | condition :: rest, absent => by
      rw [fieldsOf, absent_append] at absent
      rw [AllHold, SomeNeedData, not_or, holds_of_absent condition absent.1,
        allHold_of_absent rest absent.2]

theorem anyHolds_of_absent : ∀ conditions : List Condition,
    Absent ctx prevCtx (fieldsOf conditions) →
      (AnyHolds ctx prevCtx conditions ↔ ¬ AllNeedData conditions)
  | [], _ => by
      show False ↔ ¬ True
      simp
  | condition :: rest, absent => by
      rw [fieldsOf, absent_append] at absent
      rw [AnyHolds, AllNeedData, not_and_or, holds_of_absent condition absent.1,
        anyHolds_of_absent rest absent.2]

end

end Without

mutual

/-- A form without a `not` needs data, if it has leaves. -/
theorem needsData_of_positive : ∀ condition : Condition, condition.Leafy → condition.Positive →
    condition.NeedsData
  | .compare _ _ _, _, _ => trivial
  | .cross _ _ _, _, _ => trivial
  | .all conditions, leafy, positive =>
      someNeedData_of_positive conditions leafy.1 leafy.2 positive
  | .any conditions, leafy, positive => allNeedData_of_positive conditions leafy.2 positive
  | .negation _, _, positive => positive.elim

theorem someNeedData_of_positive : ∀ conditions : List Condition, fieldsOf conditions ≠ [] →
    AllLeafy conditions → AllPositive conditions → SomeNeedData conditions
  | [], leaves, _, _ => absurd rfl leaves
  | condition :: _, _, leafy, positive =>
      Or.inl (needsData_of_positive condition leafy.1 positive.1)

theorem allNeedData_of_positive : ∀ conditions : List Condition, AllLeafy conditions →
    AllPositive conditions → AllNeedData conditions
  | [], _, _ => trivial
  | condition :: rest, leafy, positive =>
      ⟨needsData_of_positive condition leafy.1 positive.1,
        allNeedData_of_positive rest leafy.2 positive.2⟩

end

/-- Whatever the contexts hold otherwise: a predicate none of whose fields is
present evaluates to false exactly if its form needs data. It does if it has no
`not`, and a leaf below every `and` and `or`. -/
theorem evaluate_without_data_iff {ctx : Context} {prevCtx : Option Context} {condition : Condition}
    (absent : Absent ctx prevCtx condition.fields) :
    (evaluate ctx prevCtx condition.toJson = .ok false ↔ condition.NeedsData) ∧
      (condition.Leafy → condition.Positive → condition.NeedsData) := by
  refine ⟨?_, needsData_of_positive condition⟩
  obtain ⟨answer, evaluated, means⟩ := evaluate_toJson ctx prevCtx condition
  rw [holds_of_absent condition absent] at means
  rw [evaluated, Except.ok.injEq]
  cases answer with
  | false => exact iff_of_true rfl (not_not.mp (means.not.mp (by simp)))
  | true => exact iff_of_false (by simp) (means.mp rfl)

/-- A breakout that is confirmed by another price. -/
theorem evaluate_without_data_breakout :
    evaluate Dict.empty (some Dict.empty)
      (all [cross .above "price.AAPL" 160, compare "price.MSFT" .gt 300]).toJson = .ok false := by
  refine (evaluate_without_data_iff ?_).1.mpr (Or.inl trivial)
  exact fun field _ => ⟨rfl, fun before same => by rw [← Option.some.inj same]; rfl⟩

/-- A bot that waits for a price to be at most 150 wakes as soon as there is no
price at all. -/
theorem evaluate_negation_without_data :
    let condition := negation (compare "price.AAPL" .gt 150)
    condition.Leafy ∧ Absent Dict.empty none condition.fields ∧
      evaluate Dict.empty none condition.toJson = .ok true := by
  refine ⟨trivial, fun field _ => ⟨rfl, fun before same => by cases same⟩, ?_⟩
  rfl

end TradingStrands.Condition
