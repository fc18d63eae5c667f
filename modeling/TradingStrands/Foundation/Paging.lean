import Mathlib.Data.List.Nodup

/-!
Owns a list that is handed out in pages. A page covers a stretch of the rows
after a key, holds those of them that are kept, and says where to go on: a key
unless the stretch reaches the end. Following the keys gives all kept rows,
however the service cuts its pages.

A page that reaches the end may still name its last row; the page after it is
then empty. How a service cuts may change from one call to the next.
-/

namespace TradingStrands.Foundation

structure Page (κ α : Type) where
  items : List α
  lastEvaluatedKey : Option κ

section Paging

variable {κ α : Type} [DecidableEq κ]

/-- The rows after the one with a key; all rows without a key. -/
def rowsAfter (keyOf : α → κ) (rows : List α) : Option κ → List α
  | none => rows
  | some key => (rows.dropWhile fun row => keyOf row ≠ key).drop 1

/-- Where a call may start: at the first row, or after one. -/
def IsStart (keyOf : α → κ) (rows : List α) : Option κ → Prop
  | none => True
  | some key => ∃ row ∈ rows, key = keyOf row

/-- Where a page that covers a stretch says to go on. -/
def Continues (keyOf : α → κ) (stretch rest : List α) : Option κ → Prop
  | none => rest = []
  | some key => ∃ last, stretch.getLast? = some last ∧ key = keyOf last

/-- A service that hands out the kept rows in pages. -/
structure Paginator (keyOf : α → κ) (rows : List α) (keep : α → Bool) where
  /-- The answer to a call, numbered in order, that starts after a key. -/
  page : Nat → Option κ → Page κ α
  covers : ∀ call start, IsStart keyOf rows start →
    ∃ stretch rest, rowsAfter keyOf rows start = stretch ++ rest ∧
      (page call start).items = stretch.filter keep ∧
        Continues keyOf stretch rest (page call start).lastEvaluatedKey

variable {keyOf : α → κ} {rows : List α} {keep : α → Bool}

/-- Follow the keys to the end. There is no result if the calls do not suffice. -/
def followPages (page : Nat → Option κ → Page κ α) :
    (calls call : Nat) → Option κ → List α → Option (List α)
  | 0, _, _, _ => none
  | calls + 1, call, start, items =>
      let answer := page call start
      match answer.lastEvaluatedKey with
      | none => some (items ++ answer.items)
      | some key => followPages page calls (call + 1) (some key) (items ++ answer.items)

/-- Where keys are different, the rows after the last row of a stretch are the
rest. -/
theorem rowsAfter_last (nodup : (rows.map keyOf).Nodup) {before stretch rest : List α} {last : α}
    (cut : rows = before ++ (stretch ++ rest)) (ends : stretch.getLast? = some last) :
    rowsAfter keyOf rows (some (keyOf last)) = rest := by
  obtain ⟨init, whole⟩ := List.getLast?_eq_some_iff.mp ends
  have parts : rows = (before ++ init) ++ last :: rest := by
    rw [cut, whole]
    simp only [List.append_assoc, List.singleton_append]
  have earlier : ∀ row ∈ before ++ init, (decide (keyOf row ≠ keyOf last)) = true := by
    intro row member
    rw [parts, List.map_append, List.map_cons] at nodup
    have apart := (List.nodup_append.mp nodup).2.2 (keyOf row) (List.mem_map_of_mem member)
      (keyOf last) List.mem_cons_self
    exact decide_eq_true apart
  show (rows.dropWhile fun row => keyOf row ≠ keyOf last).drop 1 = rest
  rw [parts, List.dropWhile_append_of_pos earlier,
    List.dropWhile_cons_of_neg (by simp), List.drop_one, List.tail_cons]

/-- What a call adds to the kept rows before its start: all that are left, or those
up to where it says to go on, which is further on. -/
theorem Paginator.page_cases (nodup : (rows.map keyOf).Nodup) (service : Paginator keyOf rows keep)
    (call : Nat) {start : Option κ} (started : IsStart keyOf rows start) {before : List α}
    (whole : rows = before ++ rowsAfter keyOf rows start) :
    ((service.page call start).lastEvaluatedKey = none ∧
        before.filter keep ++ (service.page call start).items = rows.filter keep) ∨
      ∃ key passed, (service.page call start).lastEvaluatedKey = some key ∧
        IsStart keyOf rows (some key) ∧ rows = passed ++ rowsAfter keyOf rows (some key) ∧
          before.filter keep ++ (service.page call start).items = passed.filter keep ∧
            (rowsAfter keyOf rows (some key)).length < (rowsAfter keyOf rows start).length := by
  obtain ⟨stretch, rest, cut, items, continues⟩ := service.covers call start started
  rw [cut] at whole
  have gathered : before.filter keep ++ (service.page call start).items =
      (before ++ stretch).filter keep := by
    rw [items, List.filter_append]
  cases answer : (service.page call start).lastEvaluatedKey with
  | none =>
      rw [answer] at continues
      have ended : rest = [] := continues
      rw [ended, List.append_nil] at whole
      exact Or.inl ⟨rfl, gathered.trans (congrArg (List.filter keep) whole.symm)⟩
  | some key =>
      rw [answer] at continues
      obtain ⟨last, ends, named⟩ := continues
      have after : rowsAfter keyOf rows (some key) = rest := by
        rw [named]
        exact rowsAfter_last nodup whole ends
      have inStretch : last ∈ stretch := List.mem_of_getLast? ends
      have isRow : last ∈ rows := by
        rw [whole]
        exact List.mem_append_right _ (List.mem_append_left _ inStretch)
      have covered := List.length_pos_of_mem inStretch
      refine Or.inr ⟨key, before ++ stretch, rfl, ⟨last, isRow, named⟩, ?_, gathered, ?_⟩
      · rw [after, List.append_assoc]
        exact whole
      · rw [after, cut, List.length_append]
        omega

/-- What has been followed so far is the kept rows up to where the next call
starts. A call for each row that is left and one more suffice, since a page that
is not the last covers a row. -/
theorem followPages_of_prefix (nodup : (rows.map keyOf).Nodup)
    (service : Paginator keyOf rows keep) (calls : Nat) :
    ∀ (call : Nat) (start : Option κ) (before : List α), IsStart keyOf rows start →
      (rowsAfter keyOf rows start).length < calls →
        rows = before ++ rowsAfter keyOf rows start →
          followPages service.page calls call start (before.filter keep) =
            some (rows.filter keep) := by
  induction calls with
  | zero =>
      intro call start before started few
      omega
  | succ calls inductionHypothesis =>
      intro call start before started few whole
      unfold followPages
      dsimp only
      rcases service.page_cases nodup call started whole with
        ⟨ends, gathered⟩ | ⟨key, passed, goesOn, isStart, cut, gathered, further⟩
      · rw [ends, gathered]
      · rw [goesOn, gathered]
        exact inductionHypothesis (call + 1) (some key) passed isStart (by omega) cut

/-- Following the keys from the start gives the kept rows in their order. -/
theorem followPages_eq_filter (nodup : (rows.map keyOf).Nodup)
    (service : Paginator keyOf rows keep) {calls : Nat} (suffice : rows.length < calls) :
    followPages service.page calls 0 none [] = some (rows.filter keep) :=
  followPages_of_prefix nodup service calls 0 none [] trivial suffice rfl

/-- A service that covers a number of rows in each call, and at least one. -/
def inChunks (keyOf : α → κ) (rows : List α) (keep : α → Bool) (size : Nat) :
    Paginator keyOf rows keep where
  page _ start :=
    let stretch := (rowsAfter keyOf rows start).take (size + 1)
    { items := stretch.filter keep
      lastEvaluatedKey :=
        if (rowsAfter keyOf rows start).length ≤ size then none
        else stretch.getLast?.map keyOf }
  covers _ start _ := by
    refine ⟨(rowsAfter keyOf rows start).take (size + 1),
      (rowsAfter keyOf rows start).drop (size + 1), (List.take_append_drop _ _).symm, rfl, ?_⟩
    dsimp only
    split
    · exact List.drop_eq_nil_of_le (by omega)
    · have longer : ((rowsAfter keyOf rows start).take (size + 1)).length ≠ 0 := by
        rw [List.length_take]
        omega
      cases ends : ((rowsAfter keyOf rows start).take (size + 1)).getLast? with
      | none => exact absurd (congrArg List.length (List.getLast?_eq_none_iff.mp ends)) longer
      | some last => exact ⟨last, ends, rfl⟩

end Paging

end TradingStrands.Foundation
