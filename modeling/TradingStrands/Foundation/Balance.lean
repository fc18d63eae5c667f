import Mathlib.Algebra.BigOperators.Group.List.Basic
import Mathlib.Algebra.Group.Basic

/-!
Owns account balances: the balance of a key over a list of postings
`(key, amount)` in a commutative group. A balance depends only on the multiset
of postings, and adding, dropping or replacing one posting moves it by exactly
that posting.
-/

namespace TradingStrands.Foundation

section Balance

variable {κ M : Type} [DecidableEq κ] [AddCommGroup M]

/-- The sum of the amounts posted to `key`. -/
def balance (postings : List (κ × M)) (key : κ) : M :=
  ((postings.filter fun posting => posting.1 = key).map Prod.snd).sum

/-- What one posting contributes to the balance of `key`. -/
def contribution (posting : κ × M) (key : κ) : M :=
  if posting.1 = key then posting.2 else 0

theorem contribution_add (key : κ) (first second : M) (other : κ) :
    contribution (key, first + second) other =
      contribution (key, first) other + contribution (key, second) other := by
  unfold contribution
  split
  · rfl
  · rw [add_zero]

@[simp] theorem contribution_zero (key other : κ) : contribution (key, (0 : M)) other = 0 := by
  unfold contribution
  split <;> rfl

@[simp] theorem balance_nil (key : κ) : balance ([] : List (κ × M)) key = 0 := rfl

theorem balance_cons (posting : κ × M) (rest : List (κ × M)) (key : κ) :
    balance (posting :: rest) key = contribution posting key + balance rest key := by
  unfold balance contribution
  by_cases same : posting.1 = key
  · simp [same]
  · simp [same]

theorem balance_append (left right : List (κ × M)) (key : κ) :
    balance (left ++ right) key = balance left key + balance right key := by
  unfold balance
  rw [List.filter_append, List.map_append, List.sum_append]

theorem balance_flatMap {α : Type} (sources : List α) (postings : α → List (κ × M)) (key : κ) :
    balance (sources.flatMap postings) key =
      (sources.map fun source => balance (postings source) key).sum := by
  induction sources with
  | nil => rfl
  | cons head tail inductionHypothesis =>
      rw [List.flatMap_cons, balance_append, inductionHypothesis, List.map_cons, List.sum_cons]

theorem balance_singleton (posting : κ × M) (key : κ) :
    balance [posting] key = contribution posting key := by
  rw [balance_cons, balance_nil, add_zero]

theorem balance_perm {left right : List (κ × M)} (permutation : left.Perm right) (key : κ) :
    balance left key = balance right key := by
  unfold balance
  exact ((permutation.filter _).map _).sum_eq

/-- A key nobody posts to has balance zero. -/
theorem balance_eq_zero {postings : List (κ × M)} {key : κ}
    (absent : ∀ posting ∈ postings, posting.1 ≠ key) : balance postings key = 0 := by
  induction postings with
  | nil => rfl
  | cons head tail inductionHypothesis =>
      rw [balance_cons, contribution, if_neg (absent head (by simp)), zero_add]
      exact inductionHypothesis fun posting member => absent posting (by simp [member])

/-- Where every key is posted to at most once, a balance is that one amount. -/
theorem balance_of_nodup {postings : List (κ × M)} (nodup : (postings.map Prod.fst).Nodup)
    {key : κ} {amount : M} (member : (key, amount) ∈ postings) :
    balance postings key = amount := by
  induction postings with
  | nil => simp at member
  | cons head tail inductionHypothesis =>
      rw [List.map_cons, List.nodup_cons] at nodup
      rcases List.mem_cons.mp member with rfl | inTail
      · have absent : ∀ posting ∈ tail, posting.1 ≠ key := by
          rintro posting inTail rfl
          exact nodup.1 (List.mem_map.mpr ⟨posting, inTail, rfl⟩)
        rw [balance_cons, balance_eq_zero absent, contribution, if_pos rfl, add_zero]
      · have different : head.1 ≠ key := by
          rintro rfl
          exact nodup.1 (List.mem_map.mpr ⟨_, inTail, rfl⟩)
        rw [balance_cons, contribution, if_neg different, zero_add,
          inductionHypothesis nodup.2 inTail]

end Balance

end TradingStrands.Foundation
