import TradingStrands.Ddb.Table

/-!
Owns the JSON that rows are answered as. The members of an object have no
order, so two answers are the same when they agree member by member.
-/

namespace TradingStrands

/-- A JSON value; its scalars are those of the table. -/
inductive RowJson
  | scalar (value : Attr)
  | array (items : List RowJson)
  | object (members : String → Option RowJson)

namespace RowJson

mutual

def ofAttr : Attr → RowJson
  | .list items => .array (ofItems items)
  | .map fields => .object (ofFields fields)
  | value => .scalar value

def ofItems : List Attr → List RowJson
  | [] => []
  | item :: rest => ofAttr item :: ofItems rest

def ofFields : List (String × Attr) → String → Option RowJson
  | [], _ => none
  | (key, value) :: rest, name => if key = name then some (ofAttr value) else ofFields rest name

end

/-- A row, its partition key among its members. -/
def ofRow (row : String × Item) : RowJson := ofAttr (.map (("pk", .text row.1) :: row.2))

/-- The member of an object. -/
def get? : RowJson → String → Option RowJson
  | .object members, name => members name
  | _, _ => none

def text? : RowJson → Option String
  | .scalar (.text value) => some value
  | _ => none

/-- `int(value)` for the members written as numbers. -/
def toInt : RowJson → Int
  | .scalar value => value.toInt
  | _ => 0

mutual

/-- `json.dumps(value, default=str)`: the numbers of a row are decimals, which
are no JSON, so they become texts. -/
def dumps : RowJson → RowJson
  | .scalar (.number value) => .scalar (.text (toString value))
  | .scalar value => .scalar value
  | .array items => .array (dumpsItems items)
  | .object members => .object fun name => dumpsMember (members name)

def dumpsItems : List RowJson → List RowJson
  | [] => []
  | item :: rest => dumps item :: dumpsItems rest

def dumpsMember : Option RowJson → Option RowJson
  | none => none
  | some member => some (dumps member)

end

@[simp] theorem get?_object (members : String → Option RowJson) (name : String) :
    (RowJson.object members).get? name = members name := rfl

@[simp] theorem get?_scalar (value : Attr) (name : String) : (scalar value).get? name = none := rfl

@[simp] theorem get?_array (items : List RowJson) (name : String) :
    (array items).get? name = none := rfl

@[simp] theorem ofAttr_map (fields : List (String × Attr)) :
    ofAttr (.map fields) = .object (ofFields fields) := rfl

@[simp] theorem dumpsMember_eq_map (member : Option RowJson) :
    dumpsMember member = member.map dumps := by
  cases member <;> rfl

theorem get?_dumps (json : RowJson) (name : String) :
    json.dumps.get? name = (json.get? name).map dumps := by
  cases json with
  | scalar value => cases value <;> rfl
  | array items => rfl
  | object members => exact dumpsMember_eq_map _

theorem ofFields_eq_attr? (item : Item) (name : String) :
    ofFields item name = (item.attr? name).map ofAttr := by
  induction item with
  | nil => rfl
  | cons entry rest inductionHypothesis =>
      unfold Item.attr? at inductionHypothesis ⊢
      rw [ofFields]
      by_cases same : entry.1 = name
      · simp [same]
      · simp [same, inductionHypothesis]

/-- A member of a row is one of its attributes. -/
theorem get?_ofRow (row : String × Item) {name : String} (plain : name ≠ "pk") :
    (ofRow row).get? name = (row.2.attr? name).map ofAttr := by
  unfold ofRow
  rw [ofAttr_map, get?_object, ofFields, if_neg (Ne.symm plain), ofFields_eq_attr?]

@[simp] theorem get?_pk_ofRow (row : String × Item) :
    (ofRow row).get? "pk" = some (.scalar (.text row.1)) := rfl

theorem toInt_ofAttr (value : Attr) : (ofAttr value).toInt = value.toInt := by
  cases value <;> rfl

/-- The members of an object whose values dump as they are. -/
theorem dumps_ofAttr_map {fields : List (String × Attr)}
    (plain : ∀ field ∈ fields, (ofAttr field.2).dumps = ofAttr field.2) :
    (ofAttr (.map fields)).dumps = ofAttr (.map fields) := by
  rw [ofAttr_map, dumps]
  refine congrArg object (funext fun name => ?_)
  rw [dumpsMember_eq_map]
  induction fields with
  | nil => rfl
  | cons field rest inductionHypothesis =>
      rw [ofFields]
      split
      · rw [Option.map_some, plain field List.mem_cons_self]
      · exact inductionHypothesis fun other member => plain other (List.mem_cons_of_mem _ member)

theorem dumps_ofAttr_list {items : List Attr}
    (plain : ∀ item ∈ items, (ofAttr item).dumps = ofAttr item) :
    (ofAttr (.list items)).dumps = ofAttr (.list items) := by
  rw [ofAttr, dumps]
  refine congrArg array ?_
  induction items with
  | nil => rfl
  | cons item rest inductionHypothesis =>
      rw [ofItems, dumpsItems, plain item List.mem_cons_self,
        inductionHypothesis fun other member => plain other (List.mem_cons_of_mem _ member)]

/-- Objects are the same if their members are. -/
theorem object_ext_iff {left right : String → Option RowJson} :
    object left = object right ↔ ∀ name, left name = right name := by
  rw [object.injEq, funext_iff]

end RowJson

end TradingStrands
