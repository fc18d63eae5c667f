import TradingStrands.Ddb.Table
import TradingStrands.Foundation.Numeral

/-!
Owns the values of a request body and how they become attributes. The client
library of the table refuses floating-point numbers, however deep they are, so a
value that holds one has no attribute.
-/

namespace TradingStrands

open TradingStrands.Foundation

/-- A value of a request body. Integers and floating-point numbers are apart. -/
inductive JsonValue
  | null
  | bool (value : Bool)
  | int (value : Int)
  | float (value : Numeral)
  | text (value : String)
  | list (items : List JsonValue)
  | map (fields : List (String × JsonValue))

namespace JsonValue

mutual

/-- The attribute a value is stored as. -/
def marshal : JsonValue → Option Attr
  | .null => some .null
  | .bool value => some (.bool value)
  | .int value => some (.number value)
  | .float _ => none
  | .text value => some (.text value)
  | .list items => (marshalItems items).map .list
  | .map fields => (marshalFields fields).map .map

def marshalItems : List JsonValue → Option (List Attr)
  | [] => some []
  | item :: rest => (marshal item).bind fun value => (marshalItems rest).map (value :: ·)

def marshalFields : List (String × JsonValue) → Option (List (String × Attr))
  | [] => some []
  | (name, field) :: rest =>
      (marshal field).bind fun value => (marshalFields rest).map ((name, value) :: ·)

end

/-- The text list of a body is stored as it is. -/
theorem marshalItems_text (texts : List String) :
    marshalItems (texts.map JsonValue.text) = some (texts.map Attr.text) := by
  induction texts with
  | nil => rfl
  | cons text rest inductionHypothesis =>
      simp [marshalItems, marshal, inductionHypothesis]

theorem map_fst_of_marshalFields {fields : List (String × JsonValue)}
    {attrs : List (String × Attr)} (stored : marshalFields fields = some attrs) :
    attrs.map Prod.fst = fields.map Prod.fst := by
  induction fields generalizing attrs with
  | nil =>
      cases stored
      rfl
  | cons field rest inductionHypothesis =>
      obtain ⟨name, value⟩ := field
      obtain ⟨first, -, later⟩ := Option.bind_eq_some_iff.mp stored
      obtain ⟨others, found, rfl⟩ := Option.map_eq_some_iff.mp later
      rw [List.map_cons, List.map_cons, inductionHypothesis found]

/-- Each attribute is stored from a field. -/
theorem mem_of_marshalFields {fields : List (String × JsonValue)} {attrs : List (String × Attr)}
    (stored : marshalFields fields = some attrs) {name : String} {attr : Attr}
    (member : (name, attr) ∈ attrs) :
    ∃ value, (name, value) ∈ fields ∧ marshal value = some attr := by
  induction fields generalizing attrs with
  | nil =>
      cases stored
      cases member
  | cons field rest inductionHypothesis =>
      obtain ⟨head, value⟩ := field
      obtain ⟨first, image, later⟩ := Option.bind_eq_some_iff.mp stored
      obtain ⟨others, found, rfl⟩ := Option.map_eq_some_iff.mp later
      rcases List.mem_cons.mp member with same | further
      · cases same
        exact ⟨value, List.mem_cons_self, image⟩
      · obtain ⟨source, inside, image⟩ := inductionHypothesis found further
        exact ⟨source, List.mem_cons_of_mem _ inside, image⟩

/-- Each field is stored. -/
theorem marshalFields_mem {fields : List (String × JsonValue)} {attrs : List (String × Attr)}
    (stored : marshalFields fields = some attrs) {name : String} {value : JsonValue}
    (member : (name, value) ∈ fields) :
    ∃ attr, marshal value = some attr ∧ (name, attr) ∈ attrs := by
  induction fields generalizing attrs with
  | nil => cases member
  | cons field rest inductionHypothesis =>
      obtain ⟨head, other⟩ := field
      obtain ⟨first, image, later⟩ := Option.bind_eq_some_iff.mp stored
      obtain ⟨others, found, rfl⟩ := Option.map_eq_some_iff.mp later
      rcases List.mem_cons.mp member with same | further
      · cases same
        exact ⟨first, image, List.mem_cons_self⟩
      · obtain ⟨attr, image, inside⟩ := inductionHypothesis found further
        exact ⟨attr, image, List.mem_cons_of_mem _ inside⟩

end JsonValue

end TradingStrands
