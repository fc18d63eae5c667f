import Mathlib.Data.List.Basic

/-!
Owns delivery in order and at least once: a sequence is cut into batches, and
each batch is processed once or more before the next one. What survives is the
last value the items carry, so a consumer that depends on nothing else comes to
the same end as one that sees every item once.

Does not own: any particular item.
-/

namespace TradingStrands.Foundation

/-- A batch and how many more times it is processed. -/
structure Delivery (α : Type) where
  items : List α
  replays : Nat := 0
deriving DecidableEq, Repr

variable {α β : Type}

/-- The batches, each item once, are the sequence. -/
def Delivers (deliveries : List (Delivery α)) (sequence : List α) : Prop :=
  deliveries.flatMap (·.items) = sequence

instance [DecidableEq α] (deliveries : List (Delivery α)) (sequence : List α) :
    Decidable (Delivers deliveries sequence) := by
  unfold Delivers
  infer_instance

/-- The batches in the order they are processed. -/
def batches (deliveries : List (Delivery α)) : List (List α) :=
  deliveries.flatMap fun delivery => List.replicate (delivery.replays + 1) delivery.items

/-- The last value that an item of the sequence carries. -/
def lastOf (carried : α → Option β) (sequence : List α) : Option β :=
  (sequence.filterMap carried).getLast?

variable (carried : α → Option β)

@[simp] theorem lastOf_nil : lastOf carried [] = none := rfl

theorem lastOf_append (left right : List α) :
    lastOf carried (left ++ right) = (lastOf carried right).or (lastOf carried left) := by
  unfold lastOf
  rw [List.filterMap_append, List.getLast?_append]

theorem lastOf_concat (sequence : List α) (item : α) :
    lastOf carried (sequence ++ [item]) = (carried item).or (lastOf carried sequence) := by
  rw [lastOf_append]
  cases held : carried item <;> simp [lastOf, held]

theorem lastOf_replicate (items : List α) (replays : Nat) :
    lastOf carried (List.replicate (replays + 1) items).flatten = lastOf carried items := by
  induction replays with
  | zero => simp
  | succ replays inductionHypothesis =>
      rw [List.replicate_succ, List.flatten_cons, lastOf_append, inductionHypothesis, Option.or_self]

/-- Redelivery does not change the last value. -/
theorem lastOf_batches {deliveries : List (Delivery α)} {sequence : List α}
    (delivers : Delivers deliveries sequence) :
    lastOf carried (batches deliveries).flatten = lastOf carried sequence := by
  subst delivers
  induction deliveries with
  | nil => rfl
  | cons delivery rest inductionHypothesis =>
      unfold batches at inductionHypothesis ⊢
      rw [List.flatMap_cons, List.flatten_append, lastOf_append, lastOf_replicate,
        inductionHypothesis, List.flatMap_cons, lastOf_append]

/-- A redelivered item is one of the sequence. -/
theorem mem_of_mem_batches {deliveries : List (Delivery α)} {sequence : List α}
    (delivers : Delivers deliveries sequence) {item : α}
    (member : item ∈ (batches deliveries).flatten) : item ∈ sequence := by
  obtain ⟨batch, batchMember, inBatch⟩ := List.mem_flatten.mp member
  obtain ⟨delivery, deliveryMember, copy⟩ := List.mem_flatMap.mp batchMember
  rw [List.eq_of_mem_replicate copy] at inBatch
  rw [← delivers]
  exact List.mem_flatMap.mpr ⟨delivery, deliveryMember, inBatch⟩

end TradingStrands.Foundation
