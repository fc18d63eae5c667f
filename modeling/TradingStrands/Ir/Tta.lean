import TradingStrands.Foundation.Dict
import TradingStrands.Foundation.NumericText

/-!
Owns the evaluation of threshold-to-action predicates as the tick loop runs it:
over arbitrary JSON values, well formed or not, with every exception an
ill-formed one can raise. A membership test and a subscript mean on a text or
an array what they mean in the source, so an ill-formed predicate takes the
same path here as there.

Evaluation is cut into mutually recursive parts along the nesting of the value,
so that it runs by structural recursion. Texts of exceptions are kept as the
values they print; the limit on nested calls is not modelled.
-/

namespace TradingStrands

open TradingStrands.Foundation

/-- A JSON value. A number is kept as the decimal that its rendering denotes. -/
inductive Json
  | null
  | bool (value : Bool)
  | number (value : Numeral)
  | text (value : String)
  | array (items : List Json)
  | object (fields : List (String × Json))

/-- Field names to decimal values. -/
abbrev Context : Type := Dict String Decimal

namespace Tta

/-- What the evaluation of a predicate can raise. -/
inductive PredicateError
  | invalidPredicate (pred : Json)
  | unknownOperator (op : Json)
  | unknownDirection (direction : Json)
  | keyError (key : String)
  | typeError
  | invalidOperation

/-! ### Reading a value -/

/-- The value of a key of an object. -/
def field? (fields : List (String × Json)) (key : String) : Option Json :=
  (fields.find? fun entry => entry.1 = key).map Prod.snd

theorem field?_cons (name : String) (value : Json) (rest : List (String × Json)) (key : String) :
    field? ((name, value) :: rest) key = if name = key then some value else field? rest key := by
  unfold field?
  by_cases same : name = key
  · rw [if_pos same, List.find?_cons_of_pos (by simpa using same), Option.map_some]
  · rw [if_neg same, List.find?_cons_of_neg (by simpa using same)]

def isText (word : String) : Json → Bool
  | .text text => text = word
  | _ => false

/-- `word in pred`: a key of an object, a part of a text, an item of an array. -/
def mentions (pred : Json) (word : String) : Except PredicateError Bool :=
  match pred with
  | .object fields => .ok (field? fields word).isSome
  | .text text => .ok (decide (word.toList <:+: text.toList))
  | .array items => .ok (items.any (isText word))
  | .null | .bool _ | .number _ => .error .typeError

/-- `pred[key]`: only an object has a text as its subscript. -/
def subscript (pred : Json) (key : String) : Except PredicateError Json :=
  match pred with
  | .object fields =>
      match field? fields key with
      | none => .error (.keyError key)
      | some value => .ok value
  | _ => .error .typeError

/-- `Decimal(str(value))`. The renderings of the other values are no numerals. -/
def decimalOf : Json → Except PredicateError Numeral
  | .number value => .ok value
  | .text text =>
      match decimal .unicode text with
      | .error _ => .error .invalidOperation
      | .ok value => .ok value
  | .null | .bool _ | .array _ | .object _ => .error .invalidOperation

/-- `ctx.get(field)`: arrays and objects cannot be looked up. -/
def contextGet (ctx : Context) : Json → Except PredicateError (Option Decimal)
  | .text field => .ok (ctx.get? field)
  | .null | .bool _ | .number _ => .ok none
  | .array _ | .object _ => .error .typeError

/-! ### Comparisons -/

inductive Operator
  | gt
  | lt
  | gte
  | lte
  | eq
deriving DecidableEq, Repr

namespace Operator

def text : Operator → String
  | .gt => "gt"
  | .lt => "lt"
  | .gte => "gte"
  | .lte => "lte"
  | .eq => "eq"

/-- The keys of the operator table. -/
def all : List Operator := [.gt, .lt, .gte, .lte, .eq]

def ofText? (name : String) : Option Operator := all.find? fun op => op.text = name

@[simp] theorem ofText?_text (op : Operator) : ofText? op.text = some op := by
  cases op <;> decide +kernel

/-- The orderings of the actual value against the given one that satisfy it. -/
def accepts : Operator → Ordering → Bool
  | .gt, ordering => ordering = .gt
  | .lt, ordering => ordering = .lt
  | .gte, ordering => ordering ≠ .lt
  | .lte, ordering => ordering ≠ .gt
  | .eq, ordering => ordering = .eq

/-- Only equality compares with not-a-number, unless it signals. -/
def apply (op : Operator) (actual : Decimal) (value : Numeral) : Except PredicateError Bool :=
  match Numeral.compare? actual value with
  | some ordering => .ok (op.accepts ordering)
  | none => if op = .eq ∧ value = .nan false then .ok false else .error .invalidOperation

end Operator

/-- The operator a predicate names, looked up in the operator table. -/
def operatorOf : Json → Except PredicateError Operator
  | .text name =>
      match Operator.ofText? name with
      | none => .error (.unknownOperator (.text name))
      | some op => .ok op
  | .array _ | .object _ => .error .typeError
  | op => .error (.unknownOperator op)

@[simp] theorem operatorOf_text (op : Operator) : operatorOf (.text op.text) = .ok op := by
  simp only [operatorOf, Operator.ofText?_text]

def evalComparison (pred : Json) (ctx : Context) : Except PredicateError Bool := do
  let field ← subscript pred "field"
  let op ← subscript pred "op"
  let value ← decimalOf (← subscript pred "value")
  let op ← operatorOf op
  match ← contextGet ctx field with
  | none => .ok false
  | some actual => op.apply actual value

/-! ### Crossings -/

inductive Direction
  | above
  | below
deriving DecidableEq, Repr

namespace Direction

def text : Direction → String
  | .above => "above"
  | .below => "below"

def ofJson? : Json → Option Direction
  | .text "above" => some .above
  | .text "below" => some .below
  | _ => none

@[simp] theorem ofJson?_text (direction : Direction) :
    ofJson? (.text direction.text) = some direction := by
  cases direction <;> rfl

/-- From `previous` to `current` the value gets beyond the threshold. -/
def Crosses (direction : Direction) (previous threshold current : Decimal) : Prop :=
  match direction with
  | .above => previous ≤ threshold ∧ threshold < current
  | .below => threshold ≤ previous ∧ current < threshold

instance (direction : Direction) (previous threshold current : Decimal) :
    Decidable (direction.Crosses previous threshold current) := by
  cases direction <;> exact inferInstanceAs (Decidable (_ ∧ _))

/-- The chained comparison of the evaluator. -/
def crossed (direction : Direction) (previous : Decimal) (threshold : Numeral)
    (current : Decimal) : Except PredicateError Bool :=
  match Numeral.compare? previous threshold, Numeral.compare? current threshold with
  | some before, some now =>
      .ok (match direction with
        | .above => before ≠ .gt && now = .gt
        | .below => before ≠ .lt && now = .lt)
  | _, _ => .error .invalidOperation

/-- At a finite threshold the chained comparison says whether it is crossed. -/
@[simp] theorem crossed_finite (direction : Direction) (previous threshold current : Decimal) :
    direction.crossed previous (.finite threshold) current =
      .ok (decide (direction.Crosses previous threshold current)) := by
  refine congrArg Except.ok (Bool.eq_iff_iff.mpr ?_)
  rw [decide_eq_true_iff]
  cases direction with
  | above =>
      show (decide (cmp previous threshold ≠ .gt) && decide (cmp current threshold = .gt)) = true ↔
        previous ≤ threshold ∧ threshold < current
      rw [Bool.and_eq_true, decide_eq_true_iff, decide_eq_true_iff, Ne, cmp_eq_gt_iff,
        cmp_eq_gt_iff, not_lt]
  | below =>
      show (decide (cmp previous threshold ≠ .lt) && decide (cmp current threshold = .lt)) = true ↔
        threshold ≤ previous ∧ current < threshold
      rw [Bool.and_eq_true, decide_eq_true_iff, decide_eq_true_iff, Ne, cmp_eq_lt_iff,
        cmp_eq_lt_iff, not_lt]

end Direction

def evalCross (pred : Json) (ctx : Context) (prevCtx : Option Context) :
    Except PredicateError Bool :=
  match prevCtx with
  | none => .ok false
  | some prevCtx => do
      let direction ← subscript pred "cross"
      let field ← subscript pred "field"
      let threshold ← decimalOf (← subscript pred "value")
      let current ← contextGet ctx field
      let previous ← contextGet prevCtx field
      match current, previous with
      | some current, some previous =>
          match Direction.ofJson? direction with
          | none => .error (.unknownDirection direction)
          | some direction => direction.crossed previous threshold current
      | _, _ => .ok false

/-! ### Predicates -/

/-- The forms without a logical operator. -/
def evaluateLeaf (pred : Json) (ctx : Context) (prevCtx : Option Context) :
    Except PredicateError Bool := do
  if ← mentions pred "cross" then evalCross pred ctx prevCtx
  else if (← mentions pred "field") && (← mentions pred "op") then evalComparison pred ctx
  else .error (.invalidPredicate pred)

/-- A predicate that is no object: its logical operators cannot be subscripted. -/
def evaluateOther (pred : Json) (ctx : Context) (prevCtx : Option Context) :
    Except PredicateError Bool := do
  if ← mentions pred "and" then .error .typeError
  else if ← mentions pred "or" then .error .typeError
  else if ← mentions pred "not" then .error .typeError
  else evaluateLeaf pred ctx prevCtx

/-- `all` over texts stops at the first false one, `any` at the first true one. -/
def evaluateTexts (ctx : Context) (prevCtx : Option Context) (stopAt : Bool) :
    List String → Except PredicateError Bool
  | [] => .ok !stopAt
  | text :: rest =>
      match evaluateOther (.text text) ctx prevCtx with
      | .error error => .error error
      | .ok answer =>
          if answer = stopAt then .ok stopAt else evaluateTexts ctx prevCtx stopAt rest

mutual

/-- Evaluate a predicate against the current and the previous context. -/
def evaluate (ctx : Context) (prevCtx : Option Context) : Json → Except PredicateError Bool
  | .object fields =>
      if (field? fields "and").isSome then evaluateAt ctx prevCtx false "and" fields
      else if (field? fields "or").isSome then evaluateAt ctx prevCtx true "or" fields
      else if (field? fields "not").isSome then negateAt ctx prevCtx fields
      else evaluateLeaf (.object fields) ctx prevCtx
  | .array items => evaluateOther (.array items) ctx prevCtx
  | .text text => evaluateOther (.text text) ctx prevCtx
  | .number value => evaluateOther (.number value) ctx prevCtx
  | .bool value => evaluateOther (.bool value) ctx prevCtx
  | .null => evaluateOther .null ctx prevCtx
termination_by structural pred => pred

/-- `all` or `any` over what the key holds. -/
def evaluateAt (ctx : Context) (prevCtx : Option Context) (stopAt : Bool) (key : String) :
    List (String × Json) → Except PredicateError Bool
  | [] => .error (.keyError key)
  | (name, value) :: rest =>
      if name = key then evaluateEach ctx prevCtx stopAt value
      else evaluateAt ctx prevCtx stopAt key rest
termination_by structural fields => fields

/-- Iterating runs over the items of an array, the keys of an object and the
characters of a text. -/
def evaluateEach (ctx : Context) (prevCtx : Option Context) (stopAt : Bool) :
    Json → Except PredicateError Bool
  | .array items => evaluateItems ctx prevCtx stopAt items
  | .object fields => evaluateTexts ctx prevCtx stopAt (fields.map Prod.fst)
  | .text text => evaluateTexts ctx prevCtx stopAt (text.toList.map String.singleton)
  | .number _ | .bool _ | .null => .error .typeError
termination_by structural value => value

def evaluateItems (ctx : Context) (prevCtx : Option Context) (stopAt : Bool) :
    List Json → Except PredicateError Bool
  | [] => .ok !stopAt
  | item :: rest =>
      match evaluate ctx prevCtx item with
      | .error error => .error error
      | .ok answer =>
          if answer = stopAt then .ok stopAt else evaluateItems ctx prevCtx stopAt rest
termination_by structural items => items

def negateAt (ctx : Context) (prevCtx : Option Context) :
    List (String × Json) → Except PredicateError Bool
  | [] => .error (.keyError "not")
  | (name, value) :: rest =>
      if name = "not" then (evaluate ctx prevCtx value).map (!·)
      else negateAt ctx prevCtx rest
termination_by structural fields => fields

end

/-! ### The forms of a predicate object -/

section Forms

variable (ctx : Context) (prevCtx : Option Context)

theorem evaluateAt_eq {stopAt : Bool} {key : String} {fields : List (String × Json)}
    {value : Json} (found : field? fields key = some value) :
    evaluateAt ctx prevCtx stopAt key fields = evaluateEach ctx prevCtx stopAt value := by
  induction fields with
  | nil => cases found
  | cons head tail inductionHypothesis =>
      obtain ⟨name, stored⟩ := head
      rw [field?_cons] at found
      rw [evaluateAt]
      by_cases same : name = key
      · rw [if_pos same, Option.some.injEq] at found
        rw [if_pos same, found]
      · rw [if_neg same] at found ⊢
        exact inductionHypothesis found

theorem negateAt_eq {fields : List (String × Json)} {value : Json}
    (found : field? fields "not" = some value) :
    negateAt ctx prevCtx fields = (evaluate ctx prevCtx value).map (!·) := by
  induction fields with
  | nil => cases found
  | cons head tail inductionHypothesis =>
      obtain ⟨name, stored⟩ := head
      rw [field?_cons] at found
      rw [negateAt]
      by_cases same : name = "not"
      · rw [if_pos same, Option.some.injEq] at found
        rw [if_pos same, found]
      · rw [if_neg same] at found ⊢
        exact inductionHypothesis found

/-- `{"and": [..]}` -/
theorem evaluate_and {fields : List (String × Json)} {value : Json}
    (isAnd : field? fields "and" = some value) :
    evaluate ctx prevCtx (.object fields) = evaluateEach ctx prevCtx false value := by
  rw [evaluate, isAnd, Option.isSome_some, if_pos rfl, evaluateAt_eq ctx prevCtx isAnd]

/-- `{"or": [..]}` -/
theorem evaluate_or {fields : List (String × Json)} {value : Json}
    (noAnd : field? fields "and" = none) (isOr : field? fields "or" = some value) :
    evaluate ctx prevCtx (.object fields) = evaluateEach ctx prevCtx true value := by
  rw [evaluate, noAnd, isOr, Option.isSome_none, Option.isSome_some, if_neg (by simp),
    if_pos rfl, evaluateAt_eq ctx prevCtx isOr]

/-- `{"not": ..}` -/
theorem evaluate_not {fields : List (String × Json)} {value : Json}
    (noAnd : field? fields "and" = none) (noOr : field? fields "or" = none)
    (isNot : field? fields "not" = some value) :
    evaluate ctx prevCtx (.object fields) = (evaluate ctx prevCtx value).map (!·) := by
  rw [evaluate, noAnd, noOr, isNot, Option.isSome_none, Option.isSome_some, if_neg (by simp),
    if_neg (by simp), if_pos rfl, negateAt_eq ctx prevCtx isNot]

/-- An object without a logical operator. -/
theorem evaluate_leaf {fields : List (String × Json)} (noAnd : field? fields "and" = none)
    (noOr : field? fields "or" = none) (noNot : field? fields "not" = none) :
    evaluate ctx prevCtx (.object fields) = evaluateLeaf (.object fields) ctx prevCtx := by
  rw [evaluate, noAnd, noOr, noNot, Option.isSome_none, if_neg (by simp), if_neg (by simp),
    if_neg (by simp)]

end Forms

end Tta

end TradingStrands
