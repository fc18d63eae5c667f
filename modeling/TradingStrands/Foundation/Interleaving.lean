import Mathlib.Algebra.BigOperators.Group.Finset.Piecewise

/-!
Owns interleavings of sequences of operations, and sums over them. Each sequence
keeps its order, and nothing is said about the order of operations of different
ones; a sum over an interleaving is the sum over the sequences.

Does not own: what the operations do.
-/

namespace TradingStrands.Foundation

/-- An order in which the sequences can be carried out side by side. -/
inductive Interleaves {α : Type} : List (List α) → List α → Prop
  | done {sequences : List (List α)} (finished : ∀ sequence ∈ sequences, sequence = []) :
      Interleaves sequences []
  | step {before after : List (List α)} {next : α} {rest order : List α}
      (later : Interleaves (before ++ rest :: after) order) :
      Interleaves (before ++ (next :: rest) :: after) (next :: order)

namespace Interleaves

variable {α : Type} {sequences : List (List α)} {order : List α}

/-- An interleaving has the operations of all sequences. -/
theorem perm (interleaves : Interleaves sequences order) : order.Perm sequences.flatten := by
  induction interleaves with
  | done finished => rw [List.flatten_eq_nil_iff.mpr finished]
  | @step before after next rest order later inductionHypothesis =>
      rw [List.flatten_append, List.flatten_cons] at inductionHypothesis ⊢
      rw [List.cons_append]
      exact (inductionHypothesis.cons next).trans List.perm_middle.symm

/-- One sequence after the other is an interleaving. -/
theorem sequential (sequences : List (List α)) : Interleaves sequences sequences.flatten := by
  have leading : ∀ done_ : List (List α), (∀ sequence ∈ done_, sequence = []) →
      Interleaves (done_ ++ sequences) sequences.flatten := by
    induction sequences with
    | nil =>
        intro done_ finished
        rw [List.append_nil]
        exact .done finished
    | cons sequence others inductionHypothesis =>
        intro done_ finished
        induction sequence with
        | nil =>
            have longer := inductionHypothesis (done_ ++ [[]]) (by
              intro sequence member
              rcases List.mem_append.mp member with early | last
              · exact finished sequence early
              · exact List.mem_singleton.mp last)
            rwa [List.append_assoc] at longer
        | cons next rest restHypothesis => exact .step restHypothesis
  exact leading [] nofun

/-- A sum does not depend on the order. -/
theorem sum_map {M : Type} [AddCommMonoid M] (interleaves : Interleaves sequences order)
    (measure : α → M) :
    (order.map measure).sum =
      (sequences.map fun sequence => (sequence.map measure).sum).sum := by
  have flat : (order.map measure).sum = (sequences.flatten.map measure).sum :=
    (interleaves.perm.map measure).sum_eq
  rw [flat, List.map_flatten, List.sum_flatten, List.map_map]
  rfl

end Interleaves

/-! ### Sums over some elements -/

section Sums

variable {α κ M : Type} [AddCommMonoid M] [DecidableEq κ]

theorem sum_map_filter (chosen : α → Bool) (measure : α → M) (elements : List α) :
    ((elements.filter chosen).map measure).sum =
      (elements.map fun element => if chosen element = true then measure element else 0).sum := by
  induction elements with
  | nil => rfl
  | cons head tail inductionHypothesis =>
      rw [List.map_cons, List.sum_cons, ← inductionHypothesis]
      by_cases kept : chosen head = true
      · rw [List.filter_cons_of_pos kept, if_pos kept, List.map_cons, List.sum_cons]
      · rw [List.filter_cons_of_neg kept, if_neg kept, zero_add]

private theorem sum_map_single {ids : List κ} (once : ids.Nodup) {id : κ} (member : id ∈ ids)
    (value : M) : (ids.map fun other => if id = other then value else 0).sum = value := by
  rw [← List.sum_toFinset _ once, Finset.sum_ite_eq, if_pos (List.mem_toFinset.mpr member)]

/-- The sums over the groups of a key add up to the whole sum. -/
theorem sum_map_groups (key : α → κ) (measure : α → M) {ids : List κ} (once : ids.Nodup)
    {elements : List α} (covers : ∀ element ∈ elements, key element ∈ ids) :
    (ids.map fun id => ((elements.filter fun element => key element = id).map measure).sum).sum =
      (elements.map measure).sum := by
  simp only [sum_map_filter, decide_eq_true_eq]
  induction elements with
  | nil => simp
  | cons head tail inductionHypothesis =>
      simp only [List.map_cons, List.sum_cons]
      rw [List.sum_map_add, sum_map_single once (covers head List.mem_cons_self),
        inductionHypothesis fun element member => covers element (List.mem_cons_of_mem _ member)]

end Sums

end TradingStrands.Foundation
