import TradingStrands.Ir.Tta

/-!
Owns what a well-formed predicate means: a tree of comparisons, crossings and
logical operators, read as a proposition about the current and the previous
context. `evaluate_toJson` connects it to the evaluator: on the JSON form of a
condition the evaluation raises nothing and answers what the condition means.

`ReadsAsComparison`, `ReadsAsCross` and `Contains` describe the same forms on arbitrary JSON values,
whatever else these hold.
-/

namespace TradingStrands

open TradingStrands.Foundation
open TradingStrands.Tta

/-- What a well-formed predicate says. -/
inductive Condition
  | compare (field : String) (op : Operator) (value : Decimal)
  | cross (direction : Direction) (field : String) (value : Decimal)
  | all (conditions : List Condition)
  | any (conditions : List Condition)
  | negation (condition : Condition)

namespace Condition

mutual

/-- The condition holds between two ticks. A field without a value satisfies
nothing, and without a previous context nothing is crossed. -/
def Holds (ctx : Context) (prevCtx : Option Context) : Condition → Prop
  | .compare field op value =>
      ∃ actual, ctx.get? field = some actual ∧ op.accepts (cmp actual value) = true
  | .cross direction field value =>
      ∃ before previous current, prevCtx = some before ∧ before.get? field = some previous ∧
        ctx.get? field = some current ∧ direction.Crosses previous value current
  | .all conditions => AllHold ctx prevCtx conditions
  | .any conditions => AnyHolds ctx prevCtx conditions
  | .negation condition => ¬ Holds ctx prevCtx condition

def AllHold (ctx : Context) (prevCtx : Option Context) : List Condition → Prop
  | [] => True
  | condition :: rest => Holds ctx prevCtx condition ∧ AllHold ctx prevCtx rest

def AnyHolds (ctx : Context) (prevCtx : Option Context) : List Condition → Prop
  | [] => False
  | condition :: rest => Holds ctx prevCtx condition ∨ AnyHolds ctx prevCtx rest

end

mutual

/-- The predicate that expresses the condition. -/
def toJson : Condition → Json
  | .compare field op value =>
      .object [("field", .text field), ("op", .text op.text), ("value", .number (.finite value))]
  | .cross direction field value =>
      .object [("cross", .text direction.text), ("field", .text field),
        ("value", .number (.finite value))]
  | .all conditions => .object [("and", .array (toJsons conditions))]
  | .any conditions => .object [("or", .array (toJsons conditions))]
  | .negation condition => .object [("not", toJson condition)]

def toJsons : List Condition → List Json
  | [] => []
  | condition :: rest => toJson condition :: toJsons rest

end

end Condition

/-! ### Leaves in a JSON value -/

/-- An object without a logical operator. -/
def IsLeaf (pred : Json) : Prop :=
  ∃ fields, pred = .object fields ∧ field? fields "and" = none ∧ field? fields "or" = none ∧
    field? fields "not" = none

/-- An object that has a key mentions it. -/
theorem IsLeaf.mentions_of_subscript {pred value : Json} {key : String} (leaf : IsLeaf pred)
    (found : subscript pred key = .ok value) : mentions pred key = .ok true := by
  obtain ⟨fields, rfl, -⟩ := leaf
  simp only [subscript] at found
  cases stored : field? fields key with
  | none => simp [stored] at found
  | some other => simp only [mentions, stored, Option.isSome_some]

theorem IsLeaf.evaluate {pred : Json} (leaf : IsLeaf pred) (ctx : Context)
    (prevCtx : Option Context) : evaluate ctx prevCtx pred = evaluateLeaf pred ctx prevCtx := by
  obtain ⟨fields, rfl, noAnd, noOr, noNot⟩ := leaf
  exact evaluate_leaf ctx prevCtx noAnd noOr noNot

/-- A predicate object that the evaluator reads as a comparison with a finite
value. Other keys may be there, in any order. -/
structure ReadsAsComparison (pred : Json) (field : String) (op : Operator) (threshold : Decimal) :
    Prop where
  leaf : IsLeaf pred
  notCross : mentions pred "cross" = .ok false
  field : subscript pred "field" = .ok (.text field)
  op : subscript pred "op" = .ok (.text op.text)
  value : ∃ value, subscript pred "value" = .ok value ∧ decimalOf value = .ok (.finite threshold)

theorem ReadsAsComparison.toJson (field : String) (op : Operator) (threshold : Decimal) :
    ReadsAsComparison (Condition.compare field op threshold).toJson field op threshold := by
  unfold Condition.toJson
  exact ⟨⟨_, rfl, rfl, rfl, rfl⟩, rfl, rfl, rfl, _, rfl, rfl⟩

/-- A comparison evaluates to what its operator says of the field, and to false
without the field. -/
theorem ReadsAsComparison.evaluate {pred : Json} {field : String} {op : Operator}
    {threshold : Decimal} (reads : ReadsAsComparison pred field op threshold) (ctx : Context)
    (prevCtx : Option Context) :
    evaluate ctx prevCtx pred =
      .ok (match ctx.get? field with
        | none => false
        | some actual => op.accepts (cmp actual threshold)) := by
  obtain ⟨value, valueAt, denotes⟩ := reads.value
  have steps : evaluateLeaf pred ctx prevCtx =
      match ctx.get? field with
      | none => .ok false
      | some actual => op.apply actual (.finite threshold) := by
    unfold evaluateLeaf evalComparison
    simp only [reads.notCross, reads.leaf.mentions_of_subscript reads.field,
      reads.leaf.mentions_of_subscript reads.op, reads.field, reads.op, valueAt, denotes,
      operatorOf_text, contextGet, bind, Except.bind]
    rfl
  rw [reads.leaf.evaluate, steps]
  cases ctx.get? field <;> rfl

/-- A predicate object that the evaluator reads as a crossing of a finite
threshold. Other keys may be there, in any order. -/
structure ReadsAsCross (pred : Json) (direction : Direction) (field : String)
    (threshold : Decimal) : Prop where
  leaf : IsLeaf pred
  cross : subscript pred "cross" = .ok (.text direction.text)
  field : subscript pred "field" = .ok (.text field)
  value : ∃ value, subscript pred "value" = .ok value ∧ decimalOf value = .ok (.finite threshold)

/-- `{"cross": direction, "field": field, "value": threshold}` -/
theorem ReadsAsCross.toJson (direction : Direction) (field : String) (threshold : Decimal) :
    ReadsAsCross (Condition.cross direction field threshold).toJson direction field threshold := by
  unfold Condition.toJson
  exact ⟨⟨_, rfl, rfl, rfl, rfl⟩, rfl, rfl, _, rfl, rfl⟩

/-- A crossing evaluates to whether the field crosses the threshold between the
two contexts, and to false where one of them lacks it. -/
theorem ReadsAsCross.evaluate {pred : Json} {direction : Direction} {field : String}
    {threshold : Decimal} (reads : ReadsAsCross pred direction field threshold) (ctx : Context)
    (prevCtx : Option Context) :
    evaluate ctx prevCtx pred =
      .ok (match prevCtx.bind fun before => before.get? field, ctx.get? field with
        | some previous, some current => decide (direction.Crosses previous threshold current)
        | _, _ => false) := by
  obtain ⟨value, valueAt, denotes⟩ := reads.value
  rw [reads.leaf.evaluate]
  unfold evaluateLeaf evalCross
  simp only [reads.leaf.mentions_of_subscript reads.cross, bind, Except.bind, if_true]
  cases prevCtx with
  | none => rfl
  | some before =>
      simp only [reads.cross, reads.field, valueAt, denotes, contextGet,
        Direction.ofJson?_text, Direction.crossed_finite, Option.bind_some]
      cases before.get? field <;> cases ctx.get? field <;> rfl

theorem ReadsAsCross.evaluate_eq_true_iff {pred : Json} {direction : Direction} {field : String}
    {threshold : Decimal} (reads : ReadsAsCross pred direction field threshold) (ctx : Context)
    (prevCtx : Option Context) :
    Tta.evaluate ctx prevCtx pred = .ok true ↔
      ∃ before previous current, prevCtx = some before ∧ before.get? field = some previous ∧
        ctx.get? field = some current ∧ direction.Crosses previous threshold current := by
  rw [reads.evaluate, Except.ok.injEq]
  cases prevCtx with
  | none => simp
  | some before =>
      rw [Option.bind_some]
      cases previousAt : before.get? field with
      | none => simp [previousAt]
      | some previous => cases ctx.get? field <;> simp [previousAt]

/-- `inner` is `pred` or stands below its logical operators. -/
inductive Contains : Json → Json → Prop
  | self (pred : Json) : Contains pred pred
  | operand {fields : List (String × Json)} {key : String} {items : List Json} {item inner : Json}
      (logical : key = "and" ∨ key = "or") (found : field? fields key = some (.array items))
      (member : item ∈ items) (below : Contains item inner) : Contains (.object fields) inner
  | negated {fields : List (String × Json)} {value inner : Json}
      (found : field? fields "not" = some value) (below : Contains value inner) :
      Contains (.object fields) inner

/-! ### The evaluator decides what a condition means -/

namespace Condition

variable (ctx : Context) (prevCtx : Option Context)

/-- An evaluation raised nothing and answered whether `meaning` holds. -/
def Decides (outcome : Except PredicateError Bool) (meaning : Prop) : Prop :=
  ∃ answer, outcome = .ok answer ∧ (answer = true ↔ meaning)

private theorem decides_compare (field : String) (op : Operator) (value : Decimal) :
    Decides (evaluate ctx prevCtx (compare field op value).toJson)
      ((compare field op value).Holds ctx prevCtx) := by
  refine ⟨_, (ReadsAsComparison.toJson field op value).evaluate ctx prevCtx, ?_⟩
  show _ ↔ ∃ actual, ctx.get? field = some actual ∧ op.accepts (cmp actual value) = true
  cases ctx.get? field with
  | none =>
      constructor
      · intro wrong
        cases wrong
      · rintro ⟨actual, held, -⟩
        cases held
  | some actual =>
      constructor
      · intro accepts
        exact ⟨actual, rfl, accepts⟩
      · rintro ⟨other, held, accepts⟩
        obtain rfl := Option.some.inj held
        exact accepts

private theorem decides_cross (direction : Direction) (field : String) (value : Decimal) :
    Decides (evaluate ctx prevCtx (cross direction field value).toJson)
      ((cross direction field value).Holds ctx prevCtx) := by
  have reads := ReadsAsCross.toJson direction field value
  refine ⟨_, reads.evaluate ctx prevCtx, ?_⟩
  have means := reads.evaluate_eq_true_iff ctx prevCtx
  rw [reads.evaluate, Except.ok.injEq] at means
  exact means

mutual

/-- The evaluator decides every condition. -/
theorem evaluate_toJson : ∀ condition : Condition,
    Decides (evaluate ctx prevCtx condition.toJson) (condition.Holds ctx prevCtx)
  | .compare field op value => decides_compare ctx prevCtx field op value
  | .cross direction field value => decides_cross ctx prevCtx direction field value
  | .all conditions => by
      have items := evaluateItems_all conditions
      rw [toJson, evaluate_and ctx prevCtx rfl, evaluateEach]
      exact items
  | .any conditions => by
      have items := evaluateItems_any conditions
      rw [toJson, evaluate_or ctx prevCtx rfl rfl, evaluateEach]
      exact items
  | .negation condition => by
      obtain ⟨answer, evaluated, means⟩ := evaluate_toJson condition
      rw [toJson, evaluate_not ctx prevCtx rfl rfl rfl, evaluated]
      refine ⟨!answer, rfl, ?_⟩
      show _ ↔ ¬ condition.Holds ctx prevCtx
      rw [← means]
      simp

private theorem evaluateItems_all : ∀ conditions : List Condition,
    Decides (evaluateItems ctx prevCtx false (toJsons conditions))
      (AllHold ctx prevCtx conditions)
  | [] => by
      rw [toJsons, evaluateItems, AllHold]
      exact ⟨true, rfl, by simp⟩
  | condition :: rest => by
      obtain ⟨answer, evaluated, means⟩ := evaluate_toJson condition
      have later := evaluateItems_all rest
      rw [toJsons, evaluateItems, evaluated, AllHold, ← means]
      cases answer with
      | false => exact ⟨false, rfl, by simp⟩
      | true => simpa using later

private theorem evaluateItems_any : ∀ conditions : List Condition,
    Decides (evaluateItems ctx prevCtx true (toJsons conditions))
      (AnyHolds ctx prevCtx conditions)
  | [] => by
      rw [toJsons, evaluateItems, AnyHolds]
      exact ⟨false, rfl, by simp⟩
  | condition :: rest => by
      obtain ⟨answer, evaluated, means⟩ := evaluate_toJson condition
      have later := evaluateItems_any rest
      rw [toJsons, evaluateItems, evaluated, AnyHolds, ← means]
      cases answer with
      | false => simpa using later
      | true => exact ⟨true, rfl, by simp⟩

end

/-- A well-formed predicate never raises. -/
theorem evaluate_toJson_ok (condition : Condition) :
    ∃ answer, evaluate ctx prevCtx condition.toJson = .ok answer := by
  obtain ⟨answer, evaluated, -⟩ := evaluate_toJson ctx prevCtx condition
  exact ⟨answer, evaluated⟩

end Condition

end TradingStrands
