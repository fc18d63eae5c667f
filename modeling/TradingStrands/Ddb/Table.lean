import TradingStrands.Foundation.Dict
import TradingStrands.Foundation.DelimitedKey
import TradingStrands.Ledger.Models

/-!
Owns the single key-value table all stores share: items are attribute lists
under a string partition key, `putItem` overwrites, and a scan with a prefix
filter returns the rows whose key begins with the prefix.

A stored document is the value it encodes: an attribute that holds the JSON
text of a fill or a ledger carries that fill or ledger. Numbers are the integers
the stores write. A scan lists the rows in the order their keys were first
written; no result below depends on it.
-/

namespace TradingStrands

open TradingStrands.Foundation

/-- An attribute value. -/
inductive Attr
  | null
  | bool (value : Bool)
  | number (value : Int)
  | text (value : String)
  | list (items : List Attr)
  | map (fields : List (String × Attr))
  | fillJson (fill : Fill)
  | ledgerJson (ledger : Ledger)

namespace Attr

mutual

/-- Whether two values are the same. -/
def same : Attr → Attr → Bool
  | .null, .null => true
  | .bool left, .bool right => left = right
  | .number left, .number right => left = right
  | .text left, .text right => left = right
  | .list left, .list right => sameItems left right
  | .map left, .map right => sameFields left right
  | .fillJson left, .fillJson right => left = right
  | .ledgerJson left, .ledgerJson right => left = right
  | _, _ => false

def sameItems : List Attr → List Attr → Bool
  | [], [] => true
  | left :: lefts, right :: rights => same left right && sameItems lefts rights
  | _, _ => false

def sameFields : List (String × Attr) → List (String × Attr) → Bool
  | [], [] => true
  | (name, left) :: lefts, (other, right) :: rights =>
      name = other && same left right && sameFields lefts rights
  | _, _ => false

end

mutual

private theorem same_iff : ∀ left right : Attr, same left right = true ↔ left = right
  | .null, right => by cases right <;> simp [same]
  | .bool _, right => by cases right <;> simp [same]
  | .number _, right => by cases right <;> simp [same]
  | .text _, right => by cases right <;> simp [same]
  | .list left, right => by cases right <;> simp [same, sameItems_iff left]
  | .map left, right => by cases right <;> simp [same, sameFields_iff left]
  | .fillJson _, right => by cases right <;> simp [same]
  | .ledgerJson _, right => by cases right <;> simp [same]

private theorem sameItems_iff : ∀ left right : List Attr,
    sameItems left right = true ↔ left = right
  | [], right => by cases right <;> simp [sameItems]
  | left :: lefts, right => by
      cases right <;> simp [sameItems, same_iff left, sameItems_iff lefts]

private theorem sameFields_iff : ∀ left right : List (String × Attr),
    sameFields left right = true ↔ left = right
  | [], right => by cases right <;> simp [sameFields]
  | (_, left) :: lefts, right => by
      cases right with
      | nil => simp [sameFields]
      | cons head tail => simp [sameFields, same_iff left, sameFields_iff lefts, Prod.ext_iff]

end

instance : DecidableEq Attr := fun left right => decidable_of_iff _ (same_iff left right)

/-- `bool(value)`. -/
def truthy : Attr → Bool
  | .null => false
  | .bool value => value
  | .number value => value ≠ 0
  | .text value => value ≠ ""
  | .list items => items ≠ []
  | .map fields => fields ≠ []
  | .fillJson _ => true
  | .ledgerJson _ => true

/-- `int(value)` for the attributes written as numbers. -/
def toInt : Attr → Int
  | .number value => value
  | _ => 0

/-- `str(value)` for the attributes written as text. -/
def toText : Attr → String
  | .text value => value
  | _ => ""

/-- Whether a value can be in a set. -/
def hashable : Attr → Bool
  | .list _ => false
  | .map _ => false
  | _ => true

end Attr

/-- The attributes of a row, its partition key apart. -/
abbrev Item : Type := List (String × Attr)

/-- `item.get(name)`. -/
def Item.attr? (item : Item) (name : String) : Option Attr :=
  (item.find? fun entry => entry.1 = name).map Prod.snd

/-- Set the named attribute, in place if it is there. -/
def Item.setAttr : Item → String → Attr → Item
  | [], name, value => [(name, value)]
  | entry :: rest, name, value =>
      if entry.1 = name then (name, value) :: rest else entry :: Item.setAttr rest name value

/-- `SET` of several attributes. -/
def Item.update (item : Item) (fields : List (String × Attr)) : Item :=
  fields.foldl (fun item field => item.setAttr field.1 field.2) item

/-- `SET` with `if_not_exists`. -/
def Item.setIfAbsent (item : Item) (name : String) (value : Attr) : Item :=
  if (item.attr? name).isSome = true then item else item.setAttr name value

theorem Item.attr?_setAttr_of_ne (item : Item) {name other : String} (value : Attr)
    (different : other ≠ name) : (item.setAttr name value).attr? other = item.attr? other := by
  induction item with
  | nil => simp [Item.setAttr, Item.attr?, Ne.symm different]
  | cons entry rest inductionHypothesis =>
      unfold Item.attr? at inductionHypothesis ⊢
      unfold Item.setAttr
      by_cases hit : entry.1 = name
      · have miss : entry.1 ≠ other := fun same => different (same.symm.trans hit)
        simp [hit, Ne.symm different]
      · by_cases found : entry.1 = other
        · rw [if_neg hit]
          simp [found]
        · simp [hit, found, inductionHypothesis]

theorem Item.attr?_setIfAbsent_of_ne (item : Item) {name other : String} (value : Attr)
    (different : other ≠ name) :
    (item.setIfAbsent name value).attr? other = item.attr? other := by
  unfold Item.setIfAbsent
  split
  · rfl
  · exact item.attr?_setAttr_of_ne value different

theorem Item.attr?_update_of_notMem (item : Item) {fields : List (String × Attr)} {other : String}
    (absent : ∀ field ∈ fields, field.1 ≠ other) :
    (item.update fields).attr? other = item.attr? other := by
  unfold Item.update
  induction fields generalizing item with
  | nil => rfl
  | cons field rest inductionHypothesis =>
      rw [List.foldl_cons, inductionHypothesis _ fun field member =>
        absent field (List.mem_cons_of_mem _ member)]
      exact item.attr?_setAttr_of_ne field.2 (absent field List.mem_cons_self).symm

theorem Item.attr?_setAttr_self (item : Item) (name : String) (value : Attr) :
    (item.setAttr name value).attr? name = some value := by
  induction item with
  | nil => simp [Item.setAttr, Item.attr?]
  | cons entry rest inductionHypothesis =>
      unfold Item.attr? at inductionHypothesis ⊢
      unfold Item.setAttr
      by_cases hit : entry.1 = name
      · simp [hit]
      · simp [hit, inductionHypothesis]

theorem Item.attr?_update_cons (item : Item) (field : String × Attr)
    (fields : List (String × Attr)) :
    item.update (field :: fields) = (item.setAttr field.1 field.2).update fields := rfl

/-- After an update an attribute is the old one or one that was set. -/
theorem Item.attr?_update_cases (item : Item) (fields : List (String × Attr)) (name : String) :
    (item.update fields).attr? name = item.attr? name ∨
      ∃ value, (name, value) ∈ fields ∧ (item.update fields).attr? name = some value := by
  induction fields generalizing item with
  | nil => exact Or.inl rfl
  | cons field rest inductionHypothesis =>
      rw [Item.attr?_update_cons]
      rcases inductionHypothesis (item.setAttr field.1 field.2) with kept | ⟨value, member, set⟩
      · rw [kept]
        by_cases same : field.1 = name
        · refine Or.inr ⟨field.2, ?_, by rw [← same, Item.attr?_setAttr_self]⟩
          rw [← same]
          exact List.mem_cons_self
        · exact Or.inl (item.attr?_setAttr_of_ne field.2 (Ne.symm same))
      · exact Or.inr ⟨value, List.mem_cons_of_mem _ member, set⟩

/-- A name that is set once has the value it was set to. -/
theorem Item.attr?_update_of_mem (item : Item) {fields : List (String × Attr)} {name : String}
    {value : Attr} (once : (fields.map Prod.fst).Nodup) (member : (name, value) ∈ fields) :
    (item.update fields).attr? name = some value := by
  induction fields generalizing item with
  | nil => cases member
  | cons field rest inductionHypothesis =>
      rw [List.map_cons, List.nodup_cons] at once
      rw [Item.attr?_update_cons]
      rcases List.mem_cons.mp member with rfl | later
      · rw [Item.attr?_update_of_notMem _ fun other inside same =>
          once.1 (List.mem_map.mpr ⟨other, inside, same⟩), Item.attr?_setAttr_self]
      · exact inductionHypothesis _ once.2 later

abbrev Table : Type := Dict String Item

namespace Table

def putItem (table : Table) (pk : String) (item : Item) : Table := table.set pk item

def getItem (table : Table) (pk : String) : Option Item := table.get? pk

def deleteItem (table : Table) (pk : String) : Table := table.erase pk

/-- `scan_all` with the filter `Attr("pk").begins_with(lead)`. -/
def scanPrefix (table : Table) (lead : String) : List (String × Item) :=
  table.entries.filter fun row => beginsWith row.1 lead

@[simp] theorem getItem_putItem_self (table : Table) (pk : String) (item : Item) :
    (table.putItem pk item).getItem pk = some item :=
  Dict.get?_set_self table pk item

theorem getItem_putItem_of_ne (table : Table) {pk other : String} (item : Item)
    (different : other ≠ pk) : (table.putItem pk item).getItem other = table.getItem other :=
  Dict.get?_set_of_ne table item different

@[simp] theorem getItem_deleteItem_self (table : Table) (pk : String) :
    (table.deleteItem pk).getItem pk = none :=
  Dict.get?_erase_self table pk

theorem getItem_deleteItem_of_ne (table : Table) {pk other : String} (different : other ≠ pk) :
    (table.deleteItem pk).getItem other = table.getItem other :=
  Dict.get?_erase_of_ne table different

theorem getItem_putItem (table : Table) (pk other : String) (item : Item) :
    (table.putItem pk item).getItem other =
      if other = pk then some item else table.getItem other :=
  Dict.get?_set table pk other item

theorem getItem_deleteItem (table : Table) (pk other : String) :
    (table.deleteItem pk).getItem other = if other = pk then none else table.getItem other := by
  by_cases same : other = pk
  · rw [if_pos same, same, getItem_deleteItem_self]
  · rw [if_neg same, getItem_deleteItem_of_ne table same]

theorem mem_scanPrefix_iff {table : Table} {lead : String} {row : String × Item} :
    row ∈ table.scanPrefix lead ↔
      table.getItem row.1 = some row.2 ∧ beginsWith row.1 lead = true := by
  unfold scanPrefix getItem
  rw [List.mem_filter, Dict.get?_eq_some_iff]

theorem nodup_scanPrefix (table : Table) (lead : String) :
    ((table.scanPrefix lead).map Prod.fst).Nodup :=
  table.nodup.sublist (List.Sublist.map _ List.filter_sublist)

/-- A scan does not see a write outside its prefix. -/
theorem scanPrefix_putItem_of_not (table : Table) {pk lead : String} (item : Item)
    (outside : beginsWith pk lead = false) :
    (table.putItem pk item).scanPrefix lead = table.scanPrefix lead := by
  have same := @Dict.restrict_set_of_dropped _ _ _ (fun key => beginsWith key lead) table pk item
    outside
  exact congrArg Dict.entries same

/-! Rows of one family of keys are apart from those of another. -/

theorem getItem_putItem_of_family (table : Table) {pk other : String} (item : Item)
    (apart : familyOf '#' other ≠ familyOf '#' pk) :
    (table.putItem pk item).getItem other = table.getItem other :=
  getItem_putItem_of_ne table item (ne_of_family apart)

theorem getItem_deleteItem_of_family (table : Table) {pk other : String}
    (apart : familyOf '#' other ≠ familyOf '#' pk) :
    (table.deleteItem pk).getItem other = table.getItem other :=
  getItem_deleteItem_of_ne table (ne_of_family apart)

theorem not_beginsWith_of_family {pk family mark rest : String} (isMark : mark.toList = ['#'])
    (free : FreeOf '#' family) (apart : familyOf '#' pk ≠ family.toList) :
    beginsWith pk (family ++ mark ++ rest) = false := by
  rw [← Bool.not_eq_true]
  intro begins
  exact apart (familyOf_of_beginsWith isMark free begins)

theorem not_beginsWith_family {pk family mark : String} (isMark : mark.toList = ['#'])
    (free : FreeOf '#' family) (apart : familyOf '#' pk ≠ family.toList) :
    beginsWith pk (family ++ mark) = false := by
  have whole := @not_beginsWith_of_family pk family mark "" isMark free apart
  rwa [String.append_empty] at whole

/-- A write under a fresh key inside the prefix appends one row. -/
theorem scanPrefix_putItem_fresh (table : Table) {pk lead : String} (item : Item)
    (inside : beginsWith pk lead = true) (fresh : table.getItem pk = none) :
    (table.putItem pk item).scanPrefix lead = table.scanPrefix lead ++ [(pk, item)] := by
  have absent : pk ∉ table.keys := Dict.get?_eq_none_iff.mp fresh
  unfold putItem scanPrefix
  rw [Dict.entries_set_of_notMem item absent, List.filter_append, List.filter_singleton, inside]
  rfl

/-- A write under a key that is there replaces the row in its place, and nothing
that looks at the key and at unchanged attributes sees the difference. -/
theorem filter_scanPrefix_putItem (table : Table) {pk : String} {old : Item} (item : Item)
    (stored : table.getItem pk = some old) (lead : String) (keep : String × Item → Bool)
    (same : keep (pk, item) = keep (pk, old)) :
    ((table.putItem pk item).scanPrefix lead).filter keep =
      ((table.scanPrefix lead).filter keep).map fun row =>
        if row.1 = pk then (pk, item) else row := by
  have present : pk ∈ table.keys := Dict.mem_keys_iff.mpr ⟨old, stored⟩
  have replaced : ∀ row ∈ table.entries, row.1 = pk → row = (pk, old) := by
    rintro ⟨key, value⟩ member rfl
    have found : table.getItem key = some value := Dict.get?_of_mem_entries member
    rw [Option.some.inj (found.symm.trans stored)]
  unfold putItem scanPrefix
  rw [Dict.entries_set_of_mem item present, List.filter_filter, List.filter_filter,
    List.filter_map]
  refine congrArg (List.map _) (List.filter_congr fun row member => ?_)
  dsimp only [Function.comp]
  by_cases hit : row.1 = pk
  · rw [if_pos hit, same, replaced row member hit]
  · rw [if_neg hit]

/-- A write under a key that is there replaces a row, so no row is added. -/
theorem length_scanPrefix_putItem_present (table : Table) {pk : String} (lead : String)
    (item : Item) (present : table.getItem pk ≠ none) :
    ((table.putItem pk item).scanPrefix lead).length = (table.scanPrefix lead).length := by
  have key : pk ∈ table.keys := by
    rw [Dict.mem_keys_iff]
    exact Option.ne_none_iff_exists'.mp present
  have byKeys : ∀ other : Table, (other.scanPrefix lead).length =
      (other.keys.filter fun pk => beginsWith pk lead).length := by
    intro other
    unfold scanPrefix Dict.keys
    rw [List.filter_map, List.length_map]
    rfl
  rw [byKeys, byKeys]
  unfold putItem
  rw [Dict.keys_set_of_mem item key]

end Table

end TradingStrands
