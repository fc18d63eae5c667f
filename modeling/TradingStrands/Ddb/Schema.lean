import TradingStrands.Ddb.Table

/-!
Owns schemas of rows: for each attribute, which values it may have, absence
included. An update of a row that conforms gives one that conforms exactly when
every value it sets may be there.
-/

namespace TradingStrands

/-- The attributes of a row, each with the values it accepts. -/
abbrev Schema : Type := List (String × (Option Attr → Bool))

namespace Schema

/-- Every attribute is accepted. -/
def Conforms (schema : Schema) (item : Item) : Prop :=
  ∀ field ∈ schema, field.2 (item.attr? field.1) = true

instance (schema : Schema) (item : Item) : Decidable (schema.Conforms item) :=
  inferInstanceAs (Decidable (∀ field ∈ schema, _))

/-- The schema accepts the value where it is set. -/
def AcceptsSet (schema : Schema) (set : String × Attr) : Prop :=
  ∀ field ∈ schema, field.1 = set.1 → field.2 (some set.2) = true

theorem Conforms.update {schema : Schema} {item : Item} (conforms : schema.Conforms item)
    {fields : List (String × Attr)} (accepts : ∀ set ∈ fields, schema.AcceptsSet set) :
    schema.Conforms (item.update fields) := by
  intro field member
  rcases item.attr?_update_cases fields field.1 with kept | ⟨value, inside, set⟩
  · rw [kept]
    exact conforms field member
  · rw [set]
    exact accepts (field.1, value) inside field member rfl

theorem acceptsSet_of_conforms_update {schema : Schema} {item : Item}
    {fields : List (String × Attr)} (once : (fields.map Prod.fst).Nodup)
    (conforms : schema.Conforms (item.update fields)) {set : String × Attr} (member : set ∈ fields) :
    schema.AcceptsSet set := by
  intro field inside same
  have accepted := conforms field inside
  rw [same, item.attr?_update_of_mem once member] at accepted
  exact accepted

end Schema

/-! ### Common attributes -/

namespace Attr

def isText : Attr → Bool
  | .text _ => true
  | _ => false

def isTextList : Attr → Bool
  | .list items => items.all isText
  | _ => false

/-- The attribute is there, and accepted. -/
def required (accepts : Attr → Bool) : Option Attr → Bool
  | none => false
  | some value => accepts value

/-- The attribute is not there, or accepted. -/
def optional (accepts : Attr → Bool) : Option Attr → Bool
  | none => true
  | some value => accepts value

end Attr

end TradingStrands
