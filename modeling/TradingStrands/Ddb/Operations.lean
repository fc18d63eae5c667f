import TradingStrands.Ddb.Table
import TradingStrands.Foundation.Programs

/-!
Owns the atomic operations on the table and the exceptions a request can end
in. A request is a program over these operations: each of them sees the table
as it is at that moment, and other requests may come between any two.
-/

namespace TradingStrands

open TradingStrands.Foundation

/-- An error response. -/
structure HttpException where
  statusCode : Nat
  detail : String
deriving DecidableEq, Repr

/-- What a store or an endpoint can raise. -/
inductive CallError
  | http (exception : HttpException)
  | notFound (message : String)
  | emailAlreadyInUse (message : String)
  | sessionInvalid (message : String)
  | unknownModel (message : String)
  /-- A write whose condition does not hold. -/
  | conditionalCheckFailed
  /-- A row that lacks a field or has one of another type. -/
  | validation (field : String)
  /-- A service the program calls failed. -/
  | service (message : String)
deriving DecidableEq, Repr

inductive TableOp
  | getItem (pk : String)
  | scanPrefix (lead : String)
  | putItem (pk : String) (item : Item)
  /-- A put with the condition that the key is not there. -/
  | putNew (pk : String) (item : Item)
  /-- `SET` with the condition that the key is there; answers the new row. -/
  | updateItem (pk : String) (fields : List (String × Attr))
  /-- `SET` with the condition that an attribute has the value; answers the new row. -/
  | updateWhere (pk : String) (name : String) (value : Attr) (fields : List (String × Attr))
  | deleteItem (pk : String)

namespace TableOp

/-- A conditional write answers whether its condition held. -/
abbrev Answer : TableOp → Type
  | .getItem _ => Option Item
  | .scanPrefix _ => List (String × Item)
  | .putItem _ _ => Unit
  | .putNew _ _ => Bool
  | .updateItem _ _ => Option Item
  | .updateWhere _ _ _ _ => Option Item
  | .deleteItem _ => Unit

/-- The answer and the table after it. -/
def apply : (op : TableOp) → Table → Answer op × Table
  | .getItem pk, table => (table.getItem pk, table)
  | .scanPrefix lead, table => (table.scanPrefix lead, table)
  | .putItem pk item, table => ((), table.putItem pk item)
  | .putNew pk item, table =>
      match table.getItem pk with
      | none => (true, table.putItem pk item)
      | some _ => (false, table)
  | .updateItem pk fields, table =>
      match table.getItem pk with
      | none => (none, table)
      | some item => (some (item.update fields), table.putItem pk (item.update fields))
  | .updateWhere pk name value fields, table =>
      match table.getItem pk with
      | none => (none, table)
      | some item =>
          if item.attr? name = some value then
            (some (item.update fields), table.putItem pk (item.update fields))
          else (none, table)
  | .deleteItem pk, table => ((), table.deleteItem pk)

/-- The key an operation writes or deletes. -/
def target? : TableOp → Option String
  | .getItem _ => none
  | .scanPrefix _ => none
  | .putItem pk _ => some pk
  | .putNew pk _ => some pk
  | .updateItem pk _ => some pk
  | .updateWhere pk _ _ _ => some pk
  | .deleteItem pk => some pk

theorem getItem_apply_of_not_target {op : TableOp} {pk : String} (other : op.target? ≠ some pk)
    (table : Table) : (op.apply table).2.getItem pk = table.getItem pk := by
  cases op with
  | getItem => rfl
  | scanPrefix => rfl
  | putItem key item =>
      exact Table.getItem_putItem_of_ne table item fun same => other (congrArg some same.symm)
  | putNew key item =>
      unfold apply
      dsimp only
      cases table.getItem key with
      | some stored => rfl
      | none =>
          exact Table.getItem_putItem_of_ne table item fun same => other (congrArg some same.symm)
  | updateItem key fields =>
      unfold apply
      dsimp only
      cases table.getItem key with
      | none => rfl
      | some stored =>
          exact Table.getItem_putItem_of_ne table _ fun same => other (congrArg some same.symm)
  | updateWhere key name value fields =>
      unfold apply
      dsimp only
      cases table.getItem key with
      | none => rfl
      | some stored =>
          dsimp only
          split
          · exact Table.getItem_putItem_of_ne table _ fun same => other (congrArg some same.symm)
          · rfl
  | deleteItem key =>
      exact Table.getItem_deleteItem_of_ne table fun same => other (congrArg some same.symm)

/-- An operation without a target leaves the table as it is. -/
theorem apply_of_no_target {op : TableOp} (reads : op.target? = none) (table : Table) :
    (op.apply table).2 = table := by
  cases op with
  | getItem => rfl
  | scanPrefix => rfl
  | putItem => cases reads
  | putNew => cases reads
  | updateItem => cases reads
  | updateWhere => cases reads
  | deleteItem => cases reads

/-- The keys an operation writes belong to one of the families. -/
def WritesIn (families : List (List Char)) (op : TableOp) : Prop :=
  ∀ pk, op.target? = some pk → familyOf '#' pk ∈ families

theorem target?_of_writesIn_nil {op : TableOp} (within : op.WritesIn []) : op.target? = none := by
  cases target : op.target? with
  | none => rfl
  | some pk => exact absurd (within pk target) List.not_mem_nil

theorem WritesIn.getItem_apply {families : List (List Char)} {op : TableOp}
    (within : op.WritesIn families) {pk : String} (outside : familyOf '#' pk ∉ families)
    (table : Table) : (op.apply table).2.getItem pk = table.getItem pk :=
  getItem_apply_of_not_target (fun target => outside (within pk target)) table

end TableOp

/-- A request as a program over the table. -/
abbrev TableProgram (α : Type) : Type := Program TableOp TableOp.Answer CallError α

namespace TableProgram

def getItem (pk : String) : TableProgram (Option Item) := Program.perform (TableOp.getItem pk)

def scanPrefix (lead : String) : TableProgram (List (String × Item)) :=
  Program.perform (TableOp.scanPrefix lead)

def putItem (pk : String) (item : Item) : TableProgram Unit := Program.perform (TableOp.putItem pk item)

def putNew (pk : String) (item : Item) : TableProgram Bool := Program.perform (TableOp.putNew pk item)

def updateItem (pk : String) (fields : List (String × Attr)) : TableProgram (Option Item) :=
  Program.perform (TableOp.updateItem pk fields)

def updateWhere (pk : String) (name : String) (value : Attr) (fields : List (String × Attr)) :
    TableProgram (Option Item) :=
  Program.perform (TableOp.updateWhere pk name value fields)

def deleteItem (pk : String) : TableProgram Unit := Program.perform (TableOp.deleteItem pk)

/-- Raise what reading a row raises. -/
def parsed {α : Type} (outcome : Except CallError α) : TableProgram α := .done outcome

/-- Go on whatever the operation raises. -/
def suppress (operation : TableProgram Unit) : TableProgram Unit :=
  tryCatch operation fun _ => pure ()

/-- Answer a missing item with an error response. -/
def orNotFound {α : Type} (lookup : TableProgram α) (detail : String) : TableProgram α :=
  tryCatch lookup fun
    | .notFound _ => throw (.http ⟨404, detail⟩)
    | error => throw error

/-! ### What a program writes -/

/-- Every key the program can write belongs to one of the families. -/
def WritesIn {α : Type} (families : List (List Char)) (program : TableProgram α) : Prop :=
  program.All TableOp.apply (TableOp.WritesIn families)

section Writes

variable {families : List (List Char)} {pk : String} {item : Item}

@[simp] theorem writesIn_pure {α : Type} (value : α) :
    WritesIn families (pure value : TableProgram α) := trivial

@[simp] theorem writesIn_throw {α : Type} (error : CallError) :
    WritesIn families (throw error : TableProgram α) := trivial

@[simp] theorem writesIn_parsed {α : Type} (outcome : Except CallError α) :
    WritesIn families (parsed outcome) := trivial

@[simp] theorem writesIn_getItem : WritesIn families (getItem pk) :=
  Program.All.perform nofun

@[simp] theorem writesIn_scanPrefix (lead : String) : WritesIn families (scanPrefix lead) :=
  Program.All.perform nofun

theorem writesIn_of_target {op : TableOp} (target : op.target? = some pk)
    (inside : familyOf '#' pk ∈ families) : op.WritesIn families := by
  intro key same
  cases target.symm.trans same
  exact inside

theorem writesIn_putItem (inside : familyOf '#' pk ∈ families) :
    WritesIn families (putItem pk item) :=
  Program.All.perform (writesIn_of_target rfl inside)

theorem writesIn_putNew (inside : familyOf '#' pk ∈ families) :
    WritesIn families (putNew pk item) :=
  Program.All.perform (writesIn_of_target rfl inside)

theorem writesIn_deleteItem (inside : familyOf '#' pk ∈ families) :
    WritesIn families (deleteItem pk) :=
  Program.All.perform (writesIn_of_target rfl inside)

theorem WritesIn.weaken {α : Type} {program : TableProgram α} {more : List (List Char)}
    (writes : WritesIn families program) (among : families ⊆ more) : WritesIn more program :=
  Program.All.mono (fun _ within pk target => among (within pk target)) writes

/-- The program writes nothing. -/
abbrev ReadsOnly {α : Type} (program : TableProgram α) : Prop := WritesIn [] program

theorem ReadsOnly.writesIn {α : Type} {program : TableProgram α} (reads : ReadsOnly program)
    (families : List (List Char)) : WritesIn families program :=
  reads.weaken (List.nil_subset families)

theorem ReadsOnly.orNotFound {α : Type} {lookup : TableProgram α} (reads : ReadsOnly lookup)
    (detail : String) : ReadsOnly (orNotFound lookup detail) := by
  refine Program.All.tryCatch reads fun error => ?_
  cases error <;> exact writesIn_throw _

end Writes

/-! ### Alone on the table -/

/-- A program run to its end with no other request under way. -/
def runAlone {α : Type} (program : TableProgram α) (table : Table) : Except CallError α × Table :=
  program.run TableOp.apply table

section Alone

variable {α β : Type} (table : Table) (pk : String) (item : Item)

theorem runAlone_bind (program : TableProgram α) (rest : α → TableProgram β) :
    runAlone (program >>= rest) table =
      match runAlone program table with
      | (.ok value, after) => runAlone (rest value) after
      | (.error error, after) => (.error error, after) := by
  unfold runAlone
  rw [Program.run_bind]
  obtain ⟨outcome, after⟩ := Program.run TableOp.apply program table
  cases outcome <;> rfl

theorem runAlone_tryCatch (program : TableProgram α) (handler : CallError → TableProgram α) :
    runAlone (tryCatch program handler) table =
      match runAlone program table with
      | (.ok value, after) => (.ok value, after)
      | (.error error, after) => runAlone (handler error) after := by
  unfold runAlone
  rw [Program.run_tryCatch]
  obtain ⟨outcome, after⟩ := Program.run TableOp.apply program table
  cases outcome <;> rfl

@[simp] theorem runAlone_pure (value : α) :
    runAlone (pure value : TableProgram α) table = (.ok value, table) := rfl

@[simp] theorem runAlone_throw (error : CallError) :
    runAlone (throw error : TableProgram α) table = (.error error, table) := rfl

@[simp] theorem runAlone_parsed (outcome : Except CallError α) :
    runAlone (parsed outcome) table = (outcome, table) := rfl

@[simp] theorem runAlone_getItem : runAlone (getItem pk) table = (.ok (table.getItem pk), table) :=
  rfl

@[simp] theorem runAlone_scanPrefix (lead : String) :
    runAlone (scanPrefix lead) table = (.ok (table.scanPrefix lead), table) := rfl

@[simp] theorem runAlone_putItem :
    runAlone (putItem pk item) table = (.ok (), table.putItem pk item) := rfl

@[simp] theorem runAlone_deleteItem :
    runAlone (deleteItem pk) table = (.ok (), table.deleteItem pk) := rfl

variable {table pk}

theorem runAlone_putNew_free (free : table.getItem pk = none) :
    runAlone (putNew pk item) table = (.ok true, table.putItem pk item) := by
  unfold runAlone putNew
  rw [Program.run_perform]
  simp only [TableOp.apply, free]

theorem runAlone_putNew_taken {stored : Item} (taken : table.getItem pk = some stored) :
    runAlone (putNew pk item) table = (.ok false, table) := by
  unfold runAlone putNew
  rw [Program.run_perform]
  simp only [TableOp.apply, taken]

/-- Rows outside the families a program writes stay as they are. -/
theorem WritesIn.getItem_runAlone {families : List (List Char)} {program : TableProgram α}
    (writes : WritesIn families program) (outside : familyOf '#' pk ∉ families) :
    (runAlone program table).2.getItem pk = table.getItem pk := by
  have keeps : ∀ (op : TableOp) (state : Table), op.WritesIn families →
      state.getItem pk = table.getItem pk → (op.apply state).2.getItem pk = table.getItem pk :=
    fun op state within same => (within.getItem_apply outside state).trans same
  exact Program.All.run_keeps keeps writes rfl

/-- What was found behind an error response was found. -/
theorem ok_of_orNotFound {lookup : TableProgram α} {detail : String} {value : α}
    (found : (runAlone (orNotFound lookup detail) table).1 = .ok value) :
    (runAlone lookup table).1 = .ok value := by
  unfold orNotFound at found
  rw [runAlone_tryCatch] at found
  revert found
  obtain ⟨error | other, after⟩ := runAlone lookup table
  · cases error <;> exact nofun
  · exact id

/-- A program that writes nothing leaves the table as it is. -/
theorem ReadsOnly.runAlone_table {program : TableProgram α} (reads : ReadsOnly program)
    (table : Table) : (runAlone program table).2 = table := by
  have keeps : ∀ (op : TableOp) (state : Table), op.WritesIn [] →
      state = table → (op.apply state).2 = table := by
    rintro op state within rfl
    exact TableOp.apply_of_no_target (TableOp.target?_of_writesIn_nil within) state
  exact Program.All.run_keeps keeps reads rfl

/-- Behind a program that writes nothing the rest starts on the same table. -/
theorem ReadsOnly.runAlone_bind {program : TableProgram α} (reads : ReadsOnly program)
    (rest : α → TableProgram β) (table : Table) :
    runAlone (program >>= rest) table =
      match (runAlone program table).1 with
      | .ok value => runAlone (rest value) table
      | .error error => (.error error, table) := by
  rw [TableProgram.runAlone_bind, ← Prod.mk.eta (p := runAlone program table),
    reads.runAlone_table]
  cases (runAlone program table).1 <;> rfl

/-- What comes behind a program, and writes nothing, leaves its table. -/
theorem table_of_bind_reads (program : TableProgram α) {rest : α → TableProgram β}
    (reads : ∀ value, ReadsOnly (rest value)) (table : Table) :
    (runAlone (program >>= rest) table).2 = (runAlone program table).2 := by
  rw [TableProgram.runAlone_bind]
  obtain ⟨outcome, after⟩ := runAlone program table
  cases outcome with
  | error error => rfl
  | ok value => exact (reads value).runAlone_table after

theorem ReadsOnly.bind_ok_iff {program : TableProgram α} (reads : ReadsOnly program)
    {rest : α → TableProgram β} {value : β} :
    (runAlone (program >>= rest) table).1 = .ok value ↔
      ∃ between, (runAlone program table).1 = .ok between ∧
        (runAlone (rest between) table).1 = .ok value := by
  rw [reads.runAlone_bind]
  cases (runAlone program table).1 <;> simp

/-- An error response is no answer. -/
theorem orNotFound_ok_iff {lookup : TableProgram α} {detail : String} {value : α} :
    (runAlone (orNotFound lookup detail) table).1 = .ok value ↔
      (runAlone lookup table).1 = .ok value := by
  refine ⟨ok_of_orNotFound, fun found => ?_⟩
  unfold orNotFound
  rw [runAlone_tryCatch, ← Prod.mk.eta (p := runAlone lookup table), found]

theorem execute_putItem (plan : TableOp → Program.Fate CallError) :
    (putItem pk item).execute TableOp.apply plan table =
      match plan (.putItem pk item) with
      | .completes => (some (.ok ()), table.putItem pk item)
      | .raises error => (some (.error error), table)
      | .stops => (none, table) := by
  unfold putItem
  rw [Program.execute_perform]
  cases plan (.putItem pk item) <;> rfl

theorem execute_deleteItem (plan : TableOp → Program.Fate CallError) :
    (deleteItem pk).execute TableOp.apply plan table =
      match plan (.deleteItem pk) with
      | .completes => (some (.ok ()), table.deleteItem pk)
      | .raises error => (some (.error error), table)
      | .stops => (none, table) := by
  unfold deleteItem
  rw [Program.execute_perform]
  cases plan (.deleteItem pk) <;> rfl

theorem execute_putNew (plan : TableOp → Program.Fate CallError) :
    (putNew pk item).execute TableOp.apply plan table =
      match plan (.putNew pk item) with
      | .completes =>
          if table.getItem pk = none then (some (.ok true), table.putItem pk item)
          else (some (.ok false), table)
      | .raises error => (some (.error error), table)
      | .stops => (none, table) := by
  unfold putNew
  rw [Program.execute_perform]
  cases plan (.putNew pk item) with
  | completes => cases stored : table.getItem pk <;> simp [TableOp.apply, stored]
  | raises error => rfl
  | stops => rfl

theorem WritesIn.getItem_execute {families : List (List Char)} {program : TableProgram α}
    (writes : WritesIn families program) (outside : familyOf '#' pk ∉ families)
    (plan : TableOp → Program.Fate CallError) :
    (program.execute TableOp.apply plan table).2.getItem pk = table.getItem pk := by
  have keeps : ∀ (op : TableOp) (state : Table), op.WritesIn families →
      state.getItem pk = table.getItem pk → (op.apply state).2.getItem pk = table.getItem pk :=
    fun op state within same => (within.getItem_apply outside state).trans same
  exact Program.All.execute_keeps keeps writes plan rfl

/-- A program that writes nothing, and whose reads complete, runs as if alone. -/
theorem ReadsOnly.execute {program : TableProgram α} (reads : ReadsOnly program)
    {plan : TableOp → Program.Fate CallError}
    (completes : ∀ op, op.target? = none → plan op = .completes) :
    program.execute TableOp.apply plan table = (some (runAlone program table).1, table) := by
  induction program with
  | done outcome => rfl
  | call op next inductionHypothesis =>
      have target := TableOp.target?_of_writesIn_nil reads.1
      rw [Program.execute_call, completes op target]
      dsimp only
      rw [TableOp.apply_of_no_target target]
      have rest := inductionHypothesis (.ok (op.apply table).1) (reads.2.2 table)
      rw [rest]
      unfold runAlone
      rw [Program.run, TableOp.apply_of_no_target target]

end Alone

end TableProgram

end TradingStrands
