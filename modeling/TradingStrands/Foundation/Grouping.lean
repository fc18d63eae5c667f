import Mathlib.Data.List.Induction

/-!
Owns grouping: items collect in a pending group, and a close turns the pending
group into the last one, in place of the one before. Closing once more at the
end, the last group holds every item exactly when no close ever fell between two
items.

Does not own: what the items are.
-/

namespace TradingStrands.Foundation

/-- What happens to a group. -/
inductive Signal (α : Type)
  | item (value : α)
  | close
  | pass
deriving DecidableEq, Repr

/-- The group that collects, and the group that was closed last. -/
structure Grouping (α : Type) where
  pending : List α := []
  last : List α := []

namespace Grouping

variable {α : Type}

def close (grouping : Grouping α) : Grouping α :=
  if grouping.pending = [] then grouping else { last := grouping.pending }

def step (grouping : Grouping α) : Signal α → Grouping α
  | .item value => { grouping with pending := grouping.pending ++ [value] }
  | .close => grouping.close
  | .pass => grouping

def after (signals : List (Signal α)) : Grouping α := signals.foldl step {}

/-- The items among the signals. -/
def itemsOf (signals : List (Signal α)) : List α :=
  signals.filterMap fun
    | .item value => some value
    | _ => none

@[simp] theorem pending_close (grouping : Grouping α) : grouping.close.pending = [] := by
  unfold close
  split
  next idle => exact idle
  next => rfl

@[simp] theorem close_close (grouping : Grouping α) : grouping.close.close = grouping.close :=
  if_pos (pending_close grouping)

theorem last_close_item (grouping : Grouping α) (value : α) :
    (grouping.step (.item value)).close.last = grouping.pending ++ [value] := by
  show (close { grouping with pending := grouping.pending ++ [value] }).last = _
  rw [close, if_neg (by simp)]

/-- Signals without items leave the group that closing makes. -/
theorem close_foldl_of_nil {signals : List (Signal α)} (none : itemsOf signals = [])
    (grouping : Grouping α) : (signals.foldl step grouping).close = grouping.close := by
  induction signals generalizing grouping with
  | nil => rfl
  | cons signal rest inductionHypothesis =>
      cases signal with
      | item value => cases none
      | close =>
          rw [List.foldl_cons, inductionHypothesis none]
          exact close_close grouping
      | pass => exact inductionHypothesis none grouping

/-- Signals with one item at most, that start and end with a closed group, make the
item the last group. -/
theorem close_foldl_of_lone {signals : List (Signal α)} (lone : (itemsOf signals).length ≤ 1)
    {grouping : Grouping α} (idle : grouping.pending = []) :
    (signals.foldl step grouping).close =
      { last := if itemsOf signals = [] then grouping.last else itemsOf signals } := by
  induction signals with
  | nil =>
      obtain ⟨_, last⟩ := grouping
      obtain rfl : _ = [] := idle
      rfl
  | cons signal rest inductionHypothesis =>
      cases signal with
      | item value =>
          have none : itemsOf rest = [] := by
            have size : (itemsOf rest).length + 1 ≤ 1 := lone
            exact List.length_eq_zero_iff.mp (by omega)
          have items : itemsOf (.item value :: rest) = [value] :=
            congrArg (List.cons value) none
          rw [List.foldl_cons, close_foldl_of_nil none, items, if_neg (List.cons_ne_nil _ _)]
          show close { grouping with pending := grouping.pending ++ [value] } = _
          rw [close, idle, if_neg (by simp)]
          rfl
      | close =>
          have same : grouping.close = grouping := if_pos idle
          rw [List.foldl_cons]
          show (rest.foldl step grouping.close).close = _
          rw [same]
          exact inductionHypothesis lone
      | pass => exact inductionHypothesis lone

/-- No close has items both before and after it. -/
def Unsplit (signals : List (Signal α)) : Prop :=
  ∀ before after, signals = before ++ .close :: after → itemsOf before = [] ∨ itemsOf after = []

/-- No close comes after an item. -/
def Unclosed (signals : List (Signal α)) : Prop :=
  ∀ before after, signals = before ++ .close :: after → itemsOf before = []

@[simp] theorem after_concat (signals : List (Signal α)) (signal : Signal α) :
    after (signals ++ [signal]) = (after signals).step signal := by
  unfold after
  rw [List.foldl_append, List.foldl_cons, List.foldl_nil]

@[simp] theorem itemsOf_append (left right : List (Signal α)) :
    itemsOf (left ++ right) = itemsOf left ++ itemsOf right :=
  List.filterMap_append

/-- A cut at a close is in the earlier signals or at the last one. -/
theorem forall_cut_concat {P : List (Signal α) → List (Signal α) → Prop}
    (signals : List (Signal α)) (last : Signal α) :
    (∀ before after, signals ++ [last] = before ++ .close :: after → P before after) ↔
      (∀ before after, signals = before ++ .close :: after → P before (after ++ [last])) ∧
        (last = .close → P signals []) := by
  constructor
  · intro all
    refine ⟨fun before after cut => all before (after ++ [last]) ?_, fun closes => ?_⟩
    · rw [cut, List.append_assoc, List.cons_append]
    · exact all signals [] (by rw [closes])
  · rintro ⟨earlier, here⟩ before after cut
    rcases List.eq_nil_or_concat after with rfl | ⟨init, final, rfl⟩
    · obtain ⟨rfl, same⟩ := List.append_inj' cut rfl
      exact here (List.cons.inj same).1
    · rw [List.concat_eq_append, ← List.cons_append, ← List.append_assoc] at cut
      obtain ⟨whole, same⟩ := List.append_inj' cut rfl
      obtain rfl := (List.cons.inj same).1
      rw [List.concat_eq_append]
      exact earlier before init whole

theorem unclosed_concat_iff (signals : List (Signal α)) (last : Signal α) :
    Unclosed (signals ++ [last]) ↔
      Unclosed signals ∧ (last = .close → itemsOf signals = []) :=
  forall_cut_concat signals last

theorem unclosed_of_nil {signals : List (Signal α)} (none : itemsOf signals = []) :
    Unclosed signals := by
  intro before after cut
  rw [cut, itemsOf_append, List.append_eq_nil_iff] at none
  exact none.1

/-- The pending group holds every item exactly while no close has come after one. -/
theorem pending_eq_iff (signals : List (Signal α)) :
    (after signals).pending = itemsOf signals ↔ Unclosed signals := by
  induction signals using List.reverseRecOn with
  | nil => exact iff_of_true rfl fun before after cut => by simp at cut
  | append_singleton signals last inductionHypothesis =>
      rw [after_concat, itemsOf_append, unclosed_concat_iff, ← inductionHypothesis]
      cases last with
      | item value =>
          show (after signals).pending ++ [value] = itemsOf signals ++ [value] ↔ _
          rw [List.append_left_inj]
          simp
      | pass =>
          show (after signals).pending = itemsOf signals ++ [] ↔ _
          rw [List.append_nil]
          simp
      | close =>
          show (close (after signals)).pending = itemsOf signals ++ [] ↔ _
          rw [List.append_nil]
          rw [pending_close]
          constructor
          · intro none
            exact ⟨inductionHypothesis.mpr (unclosed_of_nil none.symm), fun _ => none.symm⟩
          · rintro ⟨-, none⟩
            exact (none rfl).symm

theorem unsplit_concat_iff (signals : List (Signal α)) (last : Signal α) :
    Unsplit (signals ++ [last]) ↔
      ∀ before after, signals = before ++ .close :: after →
        itemsOf before = [] ∨ itemsOf (after ++ [last]) = [] := by
  unfold Unsplit
  rw [forall_cut_concat]
  exact and_iff_left fun _ => Or.inr rfl

/-- Once closed, the last group holds every item exactly when no close fell
between two items. -/
theorem last_close_eq_iff (signals : List (Signal α)) :
    (after signals).close.last = itemsOf signals ↔ Unsplit signals := by
  induction signals using List.reverseRecOn with
  | nil => exact iff_of_true rfl fun before after cut => by simp at cut
  | append_singleton signals last inductionHypothesis =>
      rw [after_concat, itemsOf_append, unsplit_concat_iff]
      cases last with
      | item value =>
          have items : itemsOf [Signal.item value] = [value] := rfl
          rw [last_close_item, items, List.append_left_inj, pending_eq_iff]
          refine forall₃_congr fun before after _ => ?_
          simp [items]
      | pass =>
          have items : itemsOf [(Signal.pass : Signal α)] = [] := rfl
          simp only [items, itemsOf_append, List.append_nil]
          exact inductionHypothesis
      | close =>
          have items : itemsOf [(Signal.close : Signal α)] = [] := rfl
          simp only [items, itemsOf_append, List.append_nil]
          rw [show (after signals).step .close = (after signals).close from rfl, close_close]
          exact inductionHypothesis

/-- The pending group, and the last group once closed, are final parts of the
items; the last group is empty only if there was no item. -/
theorem suffixes (signals : List (Signal α)) :
    (after signals).pending <:+ itemsOf signals ∧
      (after signals).close.last <:+ itemsOf signals ∧
      ((after signals).close.last = [] → itemsOf signals = []) := by
  induction signals using List.reverseRecOn with
  | nil => exact ⟨List.suffix_refl _, List.suffix_refl _, fun _ => rfl⟩
  | append_singleton signals last inductionHypothesis =>
      obtain ⟨pending, group, some⟩ := inductionHypothesis
      rw [after_concat, itemsOf_append]
      cases last with
      | item value =>
          have grown : (after signals).pending ++ [value] <:+ itemsOf signals ++ [value] := by
            obtain ⟨earlier, whole⟩ := pending
            exact ⟨earlier, by rw [← List.append_assoc, whole]⟩
          rw [last_close_item]
          exact ⟨grown, grown, fun none => by simp at none⟩
      | pass =>
          have none : itemsOf [(Signal.pass : Signal α)] = [] := rfl
          rw [none, List.append_nil]
          exact ⟨pending, group, some⟩
      | close =>
          have none : itemsOf [(Signal.close : Signal α)] = [] := rfl
          rw [none, List.append_nil, show (after signals).step .close = (after signals).close from rfl,
            close_close, pending_close]
          exact ⟨List.nil_suffix, group, some⟩

/-- The last group holds every item if it holds as many. -/
theorem length_last_close_eq_iff (signals : List (Signal α)) :
    (after signals).close.last.length = (itemsOf signals).length ↔ Unsplit signals := by
  rw [← last_close_eq_iff]
  constructor
  · exact (suffixes signals).2.1.eq_of_length
  · exact congrArg List.length

end Grouping

end TradingStrands.Foundation
