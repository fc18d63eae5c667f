import Mathlib.Algebra.Order.Ring.Int
import Mathlib.Data.List.Basic
import Mathlib.Data.List.Range

/-!
Owns values filed by bucket, where a bucket keeps the last value filed under it,
and the walk back over the buckets to the nearest one that holds a value. Where
values are filed in the order of their buckets, the walk finds the last of them,
or nothing if that lies further back than the walk reaches.
-/

namespace TradingStrands.Foundation

section Buckets

variable {α : Type}

/-- The value nearest to `now`, from there back over `reach` more buckets. -/
def walkBack (held : Int → Option α) (now : Int) (reach : Nat) : Option α :=
  (List.range (reach + 1)).findSome? fun offset : Nat => held (now - offset)

theorem walkBack_zero (held : Int → Option α) (now : Int) : walkBack held now 0 = held now := by
  unfold walkBack
  simp

/-- Look at one bucket, and walk back from the one before it. -/
theorem walkBack_succ (held : Int → Option α) (now : Int) (reach : Nat) :
    walkBack held now (reach + 1) = (held now).or (walkBack held (now - 1) reach) := by
  have shift : (fun offset : Nat => held (now - offset)) ∘ Nat.succ =
      fun offset : Nat => held (now - 1 - offset) := by
    funext offset
    show held (now - (offset + 1 : Nat)) = held (now - 1 - offset)
    congr 1
    omega
  unfold walkBack
  rw [List.range_succ_eq_map, List.findSome?_cons, List.findSome?_map, shift]
  have first : held (now - (0 : Nat)) = held now := by simp
  rw [first]
  cases held now <;> rfl

/-- What the buckets hold after values were filed, each under its bucket. -/
def heldAfter (filed : List (Int × α)) (bucket : Int) : Option α :=
  ((filed.filter fun entry => entry.1 = bucket).getLast?).map Prod.snd

theorem heldAfter_concat (filed : List (Int × α)) (entry : Int × α) (bucket : Int) :
    heldAfter (filed ++ [entry]) bucket =
      if bucket = entry.1 then some entry.2 else heldAfter filed bucket := by
  unfold heldAfter
  rw [List.filter_append]
  by_cases same : bucket = entry.1
  · rw [if_pos same, List.filter_singleton, decide_eq_true same.symm, cond_true,
      List.getLast?_concat]
    rfl
  · have other : decide (entry.1 = bucket) = false := decide_eq_false fun equal => same equal.symm
    rw [if_neg same, List.filter_singleton, other, cond_false, List.append_nil]

/-- A bucket after all that were filed holds nothing. -/
theorem heldAfter_eq_none {filed : List (Int × α)} {bucket : Int}
    (later : ∀ entry ∈ filed, entry.1 < bucket) : heldAfter filed bucket = none := by
  unfold heldAfter
  rw [List.filter_eq_nil_iff.mpr]
  · rfl
  · intro entry member
    have before := later entry member
    simp only [decide_eq_true_eq]
    omega

/-- Where no later bucket holds a value, the walk finds the value of this one, if it
is within reach. -/
theorem walkBack_of_last {held : Int → Option α} {now last : Int} {value : α}
    (here : held last = some value) (later : ∀ bucket, last < bucket → held bucket = none)
    (past : last ≤ now) (reach : Nat) :
    walkBack held now reach = if now - reach ≤ last then some value else none := by
  induction reach generalizing now with
  | zero =>
      rw [walkBack_zero]
      by_cases reached : now = last
      · rw [reached, here, if_pos (by omega)]
      · rw [later now (by omega), if_neg (by omega)]
  | succ reach inductionHypothesis =>
      rw [walkBack_succ]
      by_cases reached : now = last
      · rw [reached, here, if_pos (by omega)]
        rfl
      · have same : now - 1 - (reach : Int) ≤ last ↔ now - ((reach + 1 : Nat) : Int) ≤ last := by
          omega
        rw [later now (by omega), Option.none_or, inductionHypothesis (by omega)]
        simp only [same]

/-- Filed in the order of their buckets, the last value is the one that the walk
finds, if its bucket is within reach. -/
theorem walkBack_heldAfter {filed : List (Int × α)} {now : Int}
    (ordered : filed.Pairwise fun left right => left.1 ≤ right.1)
    (past : ∀ entry ∈ filed, entry.1 ≤ now) (reach : Nat) :
    walkBack (heldAfter filed) now reach =
      (filed.getLast?.filter fun entry => now - reach ≤ entry.1).map Prod.snd := by
  cases filed using List.reverseRecOn with
  | nil =>
      unfold walkBack
      rw [List.findSome?_eq_none_iff.mpr]
      · rfl
      · exact fun _ _ => rfl
  | append_singleton before last =>
      have here : heldAfter (before ++ [last]) last.1 = some last.2 := by
        rw [heldAfter_concat, if_pos rfl]
      have later : ∀ bucket, last.1 < bucket → heldAfter (before ++ [last]) bucket = none := by
        intro bucket after
        refine heldAfter_eq_none fun entry member => ?_
        rcases List.mem_append.mp member with earlier | same
        · have order := (List.pairwise_append.mp ordered).2.2 entry earlier last List.mem_cons_self
          omega
        · rw [List.mem_singleton.mp same]
          exact after
      rw [walkBack_of_last here later (past last (by simp)), List.getLast?_concat,
        Option.filter_some]
      simp only [decide_eq_true_eq]
      split <;> rfl

end Buckets

end TradingStrands.Foundation
