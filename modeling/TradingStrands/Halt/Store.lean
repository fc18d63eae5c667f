import TradingStrands.Ddb.Table
import TradingStrands.Foundation.Newest

/-!
Owns the halt flags in the table. The system flag lives under `CONTROL`, the
flag of an organisation under `CONTROL#` and its id; a change of either also
appends an audit row under `HALT_EVENT#`. The three families of keys are
disjoint, so each flag reads back what was last written to it.
-/

namespace TradingStrands

open TradingStrands.Foundation

/-- The flag a request is about. -/
inductive HaltTarget
  | system
  | org (orgId : OrgId)
deriving DecidableEq, Repr

namespace HaltStore

def systemHaltPk : String := "CONTROL"
def orgHaltPkPrefix : String := "CONTROL#"
def haltEventPkPrefix : String := "HALT_EVENT#"

/-- Audit rows expire after ninety days. -/
def haltEventTtlSeconds : Int := 90 * 24 * 3600

structure HaltState where
  halted : Bool
  reason : Option String
  updatedAt : Int
deriving DecidableEq

def empty : HaltState := ⟨false, none, 0⟩

def orgHaltPk (orgId : OrgId) : String := orgHaltPkPrefix ++ orgId

/-- The state a control row describes. -/
def stateOf : Option Item → HaltState
  | none => empty
  | some item =>
      { halted := ((item.attr? "desk_halted").map Attr.truthy).getD false
        reason :=
          let text := ((item.attr? "halt_reason").map Attr.toText).getD ""
          if text = "" then none else some text
        updatedAt := ((item.attr? "updated_at").map Attr.toInt).getD 0 }

def getOrgState (table : Table) (orgId : OrgId) : HaltState :=
  stateOf (table.getItem (orgHaltPk orgId))

def getSystemState (table : Table) : HaltState :=
  stateOf (table.getItem systemHaltPk)

def isOrgHalted (table : Table) (orgId : OrgId) : Bool := (getOrgState table orgId).halted

def isSystemHalted (table : Table) : Bool := (getSystemState table).halted

/-- The clock reads of one halt write and the random suffix of its audit row. -/
structure Stamp where
  updatedAt : Int := 0
  eventAt : Nat := 0
  suffix : String := ""

/-- The audit row of a state change. -/
def recordTransition (table : Table) (stamp : Stamp) (scope : String) (halted : Bool)
    (orgId : Option OrgId) (reason : String) : Table :=
  table.putItem (haltEventPkPrefix ++ (toString stamp.eventAt ++ "-" ++ stamp.suffix))
    ([("ts", .number stamp.eventAt), ("scope", .text scope), ("halted", .bool halted),
      ("reason", .text reason), ("ttl", .number (stamp.eventAt + haltEventTtlSeconds))] ++
      match orgId with
      | none => []
      | some org => if org = "" then [] else [("org_id", .text org)])

/-- Write an organisation's flag; a change of state is also recorded. -/
def setOrgHalt (table : Table) (stamp : Stamp) (orgId : OrgId) (halted : Bool)
    (reason : String) : Table :=
  let prior := getOrgState table orgId
  let written := table.putItem (orgHaltPk orgId)
    [("org_id", .text orgId), ("desk_halted", .bool halted), ("halt_reason", .text reason),
      ("updated_at", .number stamp.updatedAt)]
  if prior.halted ≠ halted then
    recordTransition written stamp "org" halted (some orgId) reason
  else written

/-- Write the system flag; a change of state is also recorded. -/
def setSystemHalt (table : Table) (stamp : Stamp) (halted : Bool) (reason : String) : Table :=
  let prior := getSystemState table
  let written := table.putItem systemHaltPk
    [("desk_halted", .bool halted), ("halt_reason", .text reason),
      ("updated_at", .number stamp.updatedAt)]
  if prior.halted ≠ halted then
    recordTransition written stamp "system" halted none reason
  else written

/-- Either flag halts the organisation. -/
def isEffectiveHalted (table : Table) (orgId : OrgId) : Bool :=
  isSystemHalted table || isOrgHalted table orgId

/-- The reason to show; a system halt takes precedence. -/
def getEffectiveReason (table : Table) (orgId : OrgId) : Option String :=
  let system := getSystemState table
  if system.halted then system.reason
  else
    let org := getOrgState table orgId
    if org.halted then org.reason else none

/-- One row of the audit log. -/
structure HaltEvent where
  ts : Int
  scope : String
  halted : Bool
  reason : Option String
  orgId : Option OrgId := none
deriving DecidableEq, Repr

/-- A text that is there and not empty. -/
def textOrNone (item : Item) (name : String) : Option String :=
  let text := ((item.attr? name).map Attr.toText).getD ""
  if text = "" then none else some text

def eventOf (item : Item) : HaltEvent :=
  { ts := ((item.attr? "ts").map Attr.toInt).getD 0
    scope := ((item.attr? "scope").map Attr.toText).getD ""
    halted := ((item.attr? "halted").map Attr.truthy).getD false
    reason := textOrNone item "reason"
    orgId := textOrNone item "org_id" }

/-- The most recent transitions, newest first. -/
def listEvents (limit : Nat) (rows : List (String × Item)) : List HaltEvent :=
  (newest (fun row : String × Item => (eventOf row.2).ts) limit rows).map fun row => eventOf row.2

/-! ### The key families are disjoint -/

theorem orgHaltPk_inj {left right : OrgId} : orgHaltPk left = orgHaltPk right ↔ left = right := by
  unfold orgHaltPk
  rw [← String.toList_inj, String.toList_append, String.toList_append, List.append_cancel_left_eq,
    String.toList_inj]

theorem orgHaltPk_ne_system (orgId : OrgId) : orgHaltPk orgId ≠ systemHaltPk := by
  intro same
  have lengths := congrArg (fun pk : String => pk.toList.length) same
  simp only [orgHaltPk, orgHaltPkPrefix, systemHaltPk, String.toList_append, List.length_append]
    at lengths
  have : ("CONTROL#" : String).toList.length = 8 := by decide
  have : ("CONTROL" : String).toList.length = 7 := by decide
  omega

private theorem orgHaltPk_get (orgId : OrgId) : (orgHaltPk orgId).toList[0]? = some 'C' := by
  simp [orgHaltPk, orgHaltPkPrefix]

private theorem eventPk_get (rest : String) :
    (haltEventPkPrefix ++ rest).toList[0]? = some 'H' := by
  simp [haltEventPkPrefix]

theorem orgHaltPk_ne_event (orgId : OrgId) (rest : String) :
    orgHaltPk orgId ≠ haltEventPkPrefix ++ rest :=
  ne_of_get 0 (orgHaltPk_get orgId) (eventPk_get rest) (by decide)

private theorem systemHaltPk_get : systemHaltPk.toList[0]? = some 'C' := rfl

theorem systemHaltPk_ne_event (rest : String) : systemHaltPk ≠ haltEventPkPrefix ++ rest :=
  ne_of_get 0 systemHaltPk_get (eventPk_get rest) (by decide)

/-- A key of another first letter is no control row. -/
theorem orgHaltPk_ne_of_get {pk : String} {letter : Char} (at_ : pk.toList[0]? = some letter)
    (different : letter ≠ 'C') (orgId : OrgId) : orgHaltPk orgId ≠ pk :=
  ne_of_get 0 (orgHaltPk_get orgId) at_ different.symm

theorem systemHaltPk_ne_of_get {pk : String} {letter : Char} (at_ : pk.toList[0]? = some letter)
    (different : letter ≠ 'C') : systemHaltPk ≠ pk :=
  ne_of_get 0 systemHaltPk_get at_ different.symm

/-! ### Each flag reads back the last write to it -/

theorem getItem_recordTransition {pk : String} (apart : ∀ rest, pk ≠ haltEventPkPrefix ++ rest)
    (table : Table) (stamp : Stamp) (scope : String) (halted : Bool) (orgId : Option OrgId)
    (reason : String) :
    (recordTransition table stamp scope halted orgId reason).getItem pk = table.getItem pk :=
  Table.getItem_putItem_of_ne table _ (apart _)

@[simp] theorem isOrgHalted_setOrgHalt_self (table : Table) (stamp : Stamp) (orgId : OrgId)
    (halted : Bool) (reason : String) :
    isOrgHalted (setOrgHalt table stamp orgId halted reason) orgId = halted := by
  unfold isOrgHalted getOrgState setOrgHalt
  dsimp only
  split
  · rw [getItem_recordTransition (orgHaltPk_ne_event orgId), Table.getItem_putItem_self]
    rfl
  · rw [Table.getItem_putItem_self]
    rfl

theorem getOrgState_setOrgHalt_of_ne {other : OrgId} (table : Table) (stamp : Stamp)
    {orgId : OrgId} (halted : Bool) (reason : String) (different : other ≠ orgId) :
    getOrgState (setOrgHalt table stamp orgId halted reason) other = getOrgState table other := by
  have keys : orgHaltPk other ≠ orgHaltPk orgId := fun same => different (orgHaltPk_inj.mp same)
  unfold getOrgState setOrgHalt
  dsimp only
  split
  · rw [getItem_recordTransition (orgHaltPk_ne_event other), Table.getItem_putItem_of_ne _ _ keys]
  · rw [Table.getItem_putItem_of_ne _ _ keys]

theorem getSystemState_setOrgHalt (table : Table) (stamp : Stamp) (orgId : OrgId)
    (halted : Bool) (reason : String) :
    getSystemState (setOrgHalt table stamp orgId halted reason) = getSystemState table := by
  have keys : systemHaltPk ≠ orgHaltPk orgId := (orgHaltPk_ne_system orgId).symm
  unfold getSystemState setOrgHalt
  dsimp only
  split
  · rw [getItem_recordTransition systemHaltPk_ne_event, Table.getItem_putItem_of_ne _ _ keys]
  · rw [Table.getItem_putItem_of_ne _ _ keys]

@[simp] theorem isSystemHalted_setSystemHalt (table : Table) (stamp : Stamp) (halted : Bool)
    (reason : String) : isSystemHalted (setSystemHalt table stamp halted reason) = halted := by
  unfold isSystemHalted getSystemState setSystemHalt
  dsimp only
  split
  · rw [getItem_recordTransition systemHaltPk_ne_event, Table.getItem_putItem_self]
    rfl
  · rw [Table.getItem_putItem_self]
    rfl

theorem getOrgState_setSystemHalt (table : Table) (stamp : Stamp) (orgId : OrgId) (halted : Bool)
    (reason : String) :
    getOrgState (setSystemHalt table stamp halted reason) orgId = getOrgState table orgId := by
  unfold getOrgState setSystemHalt
  dsimp only
  split
  · rw [getItem_recordTransition (orgHaltPk_ne_event orgId),
      Table.getItem_putItem_of_ne _ _ (orgHaltPk_ne_system orgId)]
  · rw [Table.getItem_putItem_of_ne _ _ (orgHaltPk_ne_system orgId)]

end HaltStore

end TradingStrands
