import TradingStrands.Tenancy.Store
import Mathlib.Data.List.Sort

/-!
Owns the availability of tools by organisation. A tool whose row is missing is
not available.
-/

namespace TradingStrands

/-- The availability of one tool in one organisation. -/
structure OrgToolConfig where
  orgId : OrgId
  toolName : String
  enabled : Bool
  updatedBy : UserId
  updatedAt : Int
deriving DecidableEq, Repr

namespace OrgToolConfig

def item (config : OrgToolConfig) : Item :=
  [("org_id", .text config.orgId), ("tool_name", .text config.toolName),
    ("enabled", .bool config.enabled), ("updated_by", .text config.updatedBy),
    ("updated_at", .number config.updatedAt)]

/-- `bool(item["enabled"])`. -/
def readEnabled (item : Item) : Except CallError Bool :=
  match item.attr? "enabled" with
  | none => .error (.validation "enabled")
  | some value => .ok value.truthy

/-- The availability in a row of the types the store writes. -/
def ofItem (item : Item) : Except CallError OrgToolConfig := do
  let orgId ← item.text "org_id"
  let toolName ← item.text "tool_name"
  let enabled ← readEnabled item
  let updatedBy ← item.text "updated_by"
  let updatedAt ← item.number "updated_at"
  return { orgId, toolName, enabled, updatedBy, updatedAt }

@[simp] theorem ofItem_item (config : OrgToolConfig) : ofItem config.item = .ok config := rfl

end OrgToolConfig

namespace OrgToolsStore

open TradingStrands.Foundation

def pkPrefix : String := "ORG_TOOL#"

def pk (orgId : OrgId) (toolName : String) : String := pkPrefix ++ orgId ++ "#" ++ toolName

def setEnabled (table : Table) (orgId : OrgId) (toolName : String) (enabled : Bool)
    (updatedBy : UserId) (now : Int) : Table :=
  table.putItem (pk orgId toolName)
    [("org_id", .text orgId), ("tool_name", .text toolName), ("enabled", .bool enabled),
      ("updated_by", .text updatedBy), ("updated_at", .number now)]

theorem setEnabled_eq (table : Table) (orgId : OrgId) (toolName : String) (enabled : Bool)
    (updatedBy : UserId) (now : Int) : setEnabled table orgId toolName enabled updatedBy now =
      table.putItem (pk orgId toolName)
        (OrgToolConfig.item { orgId, toolName, enabled, updatedBy, updatedAt := now }) := rfl

/-- Only an explicit row makes a tool available. -/
def isEnabled (table : Table) (orgId : OrgId) (toolName : String) : Bool :=
  match table.getItem (pk orgId toolName) with
  | none => false
  | some item => ((item.attr? "enabled").map Attr.truthy).getD false

@[simp] theorem isEnabled_empty (orgId : OrgId) (toolName : String) :
    isEnabled Dict.empty orgId toolName = false := rfl

@[simp] theorem isEnabled_setEnabled_self (table : Table) (orgId : OrgId) (toolName : String)
    (enabled : Bool) (updatedBy : UserId) (now : Int) :
    isEnabled (setEnabled table orgId toolName enabled updatedBy now) orgId toolName = enabled := by
  unfold isEnabled setEnabled
  rw [Table.getItem_putItem_self]
  rfl

def orgPrefix (orgId : OrgId) : String := pkPrefix ++ orgId ++ "#"

@[simp] theorem familyOf_pk (orgId : OrgId) (toolName : String) :
    familyOf '#' (pk orgId toolName) = "ORG_TOOL".toList := by
  have whole : pk orgId toolName = "ORG_TOOL" ++ "#" ++ (orgId ++ "#" ++ toolName) := by
    rw [← String.append_assoc, ← String.append_assoc]
    rfl
  rw [whole]
  exact familyOf_append (by decide) (by decide)

/-- `str(item.get("tool_name", ""))`. -/
def nameOf (item : Item) : String := ((item.attr? "tool_name").map Attr.toText).getD ""

/-- The availability of every tool that has a row, by name. -/
def listForOrg (orgId : OrgId) : TableProgram (List OrgToolConfig) := do
  let rows ← TableProgram.scanPrefix (orgPrefix orgId)
  TableProgram.parsed ((rows.insertionSort fun left right => nameOf left.2 ≤ nameOf right.2).mapM
    fun row => OrgToolConfig.ofItem row.2)

end OrgToolsStore

end TradingStrands
