import TradingStrands.Tenancy.Store
import Mathlib.Data.List.Sort

/-!
Owns the skills of an organisation: named texts that its strategies take into
their prompt. A body over the size cap is refused. An edit keeps the time of
creation, which it reads first.

`repr` renders a name in quotes.

Does not own: how a prompt is composed of skills.
-/

namespace TradingStrands

open TradingStrands.Foundation TableProgram

namespace SkillsStore

structure Skill where
  orgId : OrgId
  skillName : String
  markdown : String
  authorUserId : UserId
  createdAt : Int
  updatedAt : Int
deriving DecidableEq, Repr

namespace Skill

def item (skill : Skill) : Item :=
  [("org_id", .text skill.orgId), ("skill_name", .text skill.skillName),
    ("markdown", .text skill.markdown), ("author_user_id", .text skill.authorUserId),
    ("created_at", .number skill.createdAt), ("updated_at", .number skill.updatedAt)]

/-- The skill of a row of the types the store writes. -/
def ofItem (item : Item) : Except CallError Skill := do
  let orgId ← item.text "org_id"
  let skillName ← item.text "skill_name"
  let markdown ← item.text "markdown"
  let authorUserId ← item.text "author_user_id"
  let createdAt ← item.number "created_at"
  let updatedAt ← item.number "updated_at"
  return { orgId, skillName, markdown, authorUserId, createdAt, updatedAt }

@[simp] theorem ofItem_item (skill : Skill) : ofItem skill.item = .ok skill := rfl

end Skill

/-- `_MAX_SKILL_BYTES`. -/
def maxSkillBytes : Nat := 32 * 1024

def pkPrefix : String := "SKILL" ++ "#"

def pk (orgId : OrgId) (skillName : String) : String := pkPrefix ++ (orgId ++ "#" ++ skillName)

def orgPrefix (orgId : OrgId) : String := pkPrefix ++ (orgId ++ "#")

@[simp] theorem familyOf_pk (orgId : OrgId) (skillName : String) :
    familyOf '#' (pk orgId skillName) = "SKILL".toList :=
  familyOf_append (by decide) (by decide)

/-- When a skill was created: at its first write, which an edit reads. -/
def createdAt (existing : Option Item) (now : Int) : Except CallError Int :=
  match existing with
  | none => .ok now
  | some item => item.number "created_at"

/-- Create or update a skill. A body over the cap is answered with the message of
its refusal. -/
def put (repr : String → String) (orgId : OrgId) (skillName markdown : String)
    (authorUserId : UserId) (now : Int) : TableProgram (Except String Skill) := do
  if maxSkillBytes < markdown.utf8ByteSize then
    return .error ("skill " ++ repr skillName ++ " body exceeds " ++ toString maxSkillBytes ++
      "-byte cap")
  let existing ← getItem (pk orgId skillName)
  let createdAt ← parsed (createdAt existing now)
  let skill : Skill := { orgId, skillName, markdown, authorUserId, createdAt, updatedAt := now }
  putItem (pk orgId skillName) skill.item
  return .ok skill

/-- A skill is written unless its body is refused, or it is there and its time of
creation cannot be read. -/
theorem table_of_put (repr : String → String) (orgId : OrgId) (skillName markdown : String)
    (authorUserId : UserId) (now : Int) (table : Table) :
    (runAlone (put repr orgId skillName markdown authorUserId now) table).2 =
      if maxSkillBytes < markdown.utf8ByteSize then table
      else
        match SkillsStore.createdAt (table.getItem (pk orgId skillName)) now with
        | .error _ => table
        | .ok createdAt => table.putItem (pk orgId skillName) (Skill.item
            { orgId, skillName, markdown, authorUserId, createdAt, updatedAt := now }) := by
  unfold put
  split
  · rfl
  · rw [runAlone_bind, runAlone_getItem]
    dsimp only
    rw [runAlone_bind, runAlone_parsed]
    cases SkillsStore.createdAt (table.getItem (pk orgId skillName)) now <;> rfl

def get (orgId : OrgId) (skillName : String) : TableProgram Skill := do
  match ← getItem (pk orgId skillName) with
  | none => throw (.notFound skillName)
  | some item => parsed (Skill.ofItem item)

/-- Deleting a skill that is not there does nothing. -/
def delete (orgId : OrgId) (skillName : String) : TableProgram Unit :=
  deleteItem (pk orgId skillName)

/-- `str(item.get("skill_name", ""))`. -/
def nameOf (item : Item) : String := ((item.attr? "skill_name").map Attr.toText).getD ""

/-- Every skill of an organisation, by name. -/
def listForOrg (orgId : OrgId) : TableProgram (List Skill) := do
  let rows ← scanPrefix (orgPrefix orgId)
  parsed ((rows.insertionSort fun left right => nameOf left.2 ≤ nameOf right.2).mapM fun row =>
    Skill.ofItem row.2)

end SkillsStore

end TradingStrands
