import TradingStrands.Foundation.Decimal
import TradingStrands.Foundation.Dict
import TradingStrands.Foundation.Runs

/-!
Owns tables whose rows are written by increments: an update adds to the numbers of
a row, which it makes if it is missing, and sets those of its texts that are not
there. Increments commute, so a number is the sum of what was added to it, in any
order; a text that every update of a row agrees on is the one they agree on.

An attribute is a number or a text by its name, so adding to one never fails.
-/

namespace TradingStrands.Foundation

structure TallyRow where
  numbers : Dict String Decimal := Dict.empty
  texts : Dict String String := Dict.empty

namespace TallyRow

/-- A number of a row, zero if it is not there. -/
def number (row : TallyRow) (name : String) : Decimal := (row.numbers.get? name).getD 0

def text? (row : TallyRow) (name : String) : Option String := row.texts.get? name

/-- `ADD`. -/
def add (row : TallyRow) (entry : String × Decimal) : TallyRow :=
  { row with numbers := row.numbers.set entry.1 (row.number entry.1 + entry.2) }

/-- `SET` with `if_not_exists`. -/
def fill (row : TallyRow) (entry : String × String) : TallyRow :=
  if (row.text? entry.1).isSome = true then row
  else { row with texts := row.texts.set entry.1 entry.2 }

def update (row : TallyRow) (adds : List (String × Decimal)) (defaults : List (String × String)) :
    TallyRow :=
  defaults.foldl fill (adds.foldl add row)

/-- What is added under a name. -/
def amount (adds : List (String × Decimal)) (name : String) : Decimal :=
  (adds.map fun entry => if entry.1 = name then entry.2 else 0).sum

/-- The text given for a name. -/
def default? (defaults : List (String × String)) (name : String) : Option String :=
  (defaults.find? fun entry => entry.1 = name).map Prod.snd

theorem number_add (row : TallyRow) (entry : String × Decimal) (name : String) :
    (row.add entry).number name = row.number name + if entry.1 = name then entry.2 else 0 := by
  unfold add number
  rw [Dict.get?_set]
  by_cases same : entry.1 = name
  · rw [if_pos same.symm, if_pos same, same]
    rfl
  · rw [if_neg (Ne.symm same), if_neg same, add_zero]

theorem number_addAll (row : TallyRow) (adds : List (String × Decimal)) (name : String) :
    (adds.foldl add row).number name = row.number name + amount adds name := by
  induction adds generalizing row with
  | nil => exact (add_zero _).symm
  | cons entry rest inductionHypothesis =>
      rw [List.foldl_cons, inductionHypothesis, number_add]
      unfold amount
      rw [List.map_cons, List.sum_cons, add_assoc]

theorem text?_addAll (row : TallyRow) (adds : List (String × Decimal)) :
    (adds.foldl add row).texts = row.texts := by
  induction adds generalizing row with
  | nil => rfl
  | cons entry rest inductionHypothesis => exact inductionHypothesis (row.add entry)

theorem number_fillAll (row : TallyRow) (defaults : List (String × String)) :
    (defaults.foldl fill row).numbers = row.numbers := by
  induction defaults generalizing row with
  | nil => rfl
  | cons entry rest inductionHypothesis =>
      rw [List.foldl_cons, inductionHypothesis]
      unfold fill
      split <;> rfl

theorem text?_fill (row : TallyRow) (entry : String × String) (name : String) :
    (row.fill entry).text? name =
      (row.text? name).or (if entry.1 = name then some entry.2 else none) := by
  unfold fill
  by_cases same : entry.1 = name
  · subst same
    cases stored : row.text? entry.1 with
    | some value => simp [stored]
    | none =>
        rw [if_neg (by simp), if_pos rfl]
        exact Dict.get?_set_self _ _ _
  · rw [if_neg same, Option.or_none]
    split
    · rfl
    · exact Dict.get?_set_of_ne _ _ (Ne.symm same)

theorem text?_fillAll (row : TallyRow) (defaults : List (String × String)) (name : String) :
    (defaults.foldl fill row).text? name = (row.text? name).or (default? defaults name) := by
  induction defaults generalizing row with
  | nil => exact (Option.or_none).symm
  | cons entry rest inductionHypothesis =>
      rw [List.foldl_cons, inductionHypothesis, text?_fill, Option.or_assoc]
      congr 1
      unfold default?
      by_cases same : entry.1 = name
      · simp [same]
      · simp [same]

theorem number_update (row : TallyRow) (adds : List (String × Decimal))
    (defaults : List (String × String)) (name : String) :
    (row.update adds defaults).number name = row.number name + amount adds name := by
  rw [← number_addAll]
  unfold update number
  rw [number_fillAll]

theorem text?_update (row : TallyRow) (adds : List (String × Decimal))
    (defaults : List (String × String)) (name : String) :
    (row.update adds defaults).text? name = (row.text? name).or (default? defaults name) := by
  unfold update
  rw [text?_fillAll]
  unfold text?
  rw [text?_addAll]

end TallyRow

abbrev TallyTable : Type := Dict String TallyRow

inductive TallyOp
  | update (key : String) (adds : List (String × Decimal)) (defaults : List (String × String))
  | put (key : String) (row : TallyRow)

namespace TallyOp

def key : TallyOp → String
  | .update key _ _ => key
  | .put key _ => key

def apply (table : TallyTable) : TallyOp → TallyTable
  | .update key adds defaults =>
      table.set key (((table.get? key).getD {}).update adds defaults)
  | .put key row => table.set key row

def isUpdate : TallyOp → Bool
  | .update _ _ _ => true
  | .put _ _ => false

/-- What an operation adds to a number of a row. -/
def addsTo (key name : String) : TallyOp → Decimal
  | .update other adds _ => if other = key then TallyRow.amount adds name else 0
  | .put _ _ => 0

/-- The text an operation gives for a name. -/
def default? (name : String) : TallyOp → Option String
  | .update _ _ defaults => TallyRow.default? defaults name
  | .put _ row => row.text? name

end TallyOp

namespace TallyTable

/-- A number of the row under a key, zero if there is no row. -/
def numberAt (table : TallyTable) (key name : String) : Decimal :=
  ((table.get? key).getD {}).number name

def textAt (table : TallyTable) (key name : String) : Option String :=
  ((table.get? key).getD {}).text? name

variable {key name : String}

theorem numberAt_set (table : TallyTable) (key other name : String) (row : TallyRow) :
    numberAt (table.set other row) key name =
      if key = other then row.number name else numberAt table key name := by
  unfold numberAt
  rw [Dict.get?_set]
  split <;> rfl

theorem textAt_set (table : TallyTable) (key other name : String) (row : TallyRow) :
    textAt (table.set other row) key name =
      if key = other then row.text? name else textAt table key name := by
  unfold textAt
  rw [Dict.get?_set]
  split <;> rfl

theorem textAt_of_absent {table : TallyTable} (absent : key ∉ table.keys) :
    textAt table key name = none := by
  unfold textAt
  rw [Dict.get?_eq_none_iff.mpr absent]
  rfl

theorem numberAt_apply (table : TallyTable) {op : TallyOp}
    (counts : op.key = key → op.isUpdate = true) :
    numberAt (op.apply table) key name = numberAt table key name + op.addsTo key name := by
  cases op with
  | put other row =>
      have elsewhere : key ≠ other := fun same => nomatch counts same.symm
      show numberAt (table.set other row) key name = numberAt table key name + 0
      rw [numberAt_set, if_neg elsewhere, add_zero]
  | update other adds defaults =>
      show numberAt (table.set other _) key name =
        numberAt table key name + if other = key then TallyRow.amount adds name else 0
      rw [numberAt_set]
      by_cases same : other = key
      · subst same
        rw [if_pos rfl, if_pos rfl]
        exact TallyRow.number_update _ adds defaults name
      · rw [if_neg (Ne.symm same), if_neg same, add_zero]

theorem mem_keys_apply (table : TallyTable) (op : TallyOp) :
    key ∈ (op.apply table).keys ↔ op.key = key ∨ key ∈ table.keys := by
  cases op with
  | update other adds defaults =>
      exact Dict.mem_keys_set_iff.trans (or_congr_left eq_comm)
  | put other row => exact Dict.mem_keys_set_iff.trans (or_congr_left eq_comm)

/-- A number is the sum of what was added. -/
theorem numberAt_run (table : TallyTable) {ops : List TallyOp}
    (counts : ∀ op ∈ ops, op.key = key → op.isUpdate = true) :
    numberAt (run TallyOp.apply table ops) key name =
      numberAt table key name + (ops.map (TallyOp.addsTo key name)).sum := by
  induction ops generalizing table with
  | nil => exact (add_zero _).symm
  | cons op rest inductionHypothesis =>
      rw [run_cons, inductionHypothesis _ fun other member =>
        counts other (List.mem_cons_of_mem _ member),
        numberAt_apply table (counts op List.mem_cons_self), List.map_cons, List.sum_cons,
        add_assoc]

/-- The rows are those that were written. -/
theorem mem_keys_run {table : TallyTable} {ops : List TallyOp} :
    key ∈ (run TallyOp.apply table ops).keys ↔ key ∈ table.keys ∨ ∃ op ∈ ops, op.key = key := by
  induction ops generalizing table with
  | nil => simp
  | cons op rest inductionHypothesis =>
      rw [run_cons, inductionHypothesis, mem_keys_apply]
      simp only [List.mem_cons, exists_eq_or_imp]
      tauto

/-- A text that all writes of a row agree on is in the row. -/
theorem textAt_run {table : TallyTable} {ops : List TallyOp} {value : Option String}
    (agree : ∀ op ∈ ops, op.key = key → op.default? name = value)
    (initial : key ∈ table.keys → textAt table key name = value)
    (present : key ∈ (run TallyOp.apply table ops).keys) :
    textAt (run TallyOp.apply table ops) key name = value := by
  induction ops generalizing table with
  | nil => exact initial present
  | cons op rest inductionHypothesis =>
      refine inductionHypothesis (fun other member => agree other (List.mem_cons_of_mem _ member))
        (fun written => ?_) present
      have here := agree op List.mem_cons_self
      cases op with
      | put other row =>
          show textAt (table.set other row) key name = value
          rw [textAt_set]
          split
          next same => exact here same.symm
          next different =>
            exact initial (((mem_keys_apply table _).mp written).resolve_left (Ne.symm different))
      | update other adds defaults =>
          show textAt (table.set other _) key name = value
          rw [textAt_set]
          split
          next same =>
            subst same
            have given : TallyRow.default? defaults name = value := here rfl
            rw [TallyRow.text?_update, given]
            by_cases stored : key ∈ table.keys
            · have kept : ((table.get? key).getD {}).text? name = value := initial stored
              rw [kept, Option.or_self]
            · have missing : ((table.get? key).getD {}).text? name = none :=
                textAt_of_absent stored
              rw [missing, Option.none_or]
          next different =>
            exact initial (((mem_keys_apply table _).mp written).resolve_left (Ne.symm different))

end TallyTable

end TradingStrands.Foundation
