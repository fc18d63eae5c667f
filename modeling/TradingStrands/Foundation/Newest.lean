import Mathlib.Data.List.Sort
import Mathlib.Order.Defs.LinearOrder

/-!
Owns lists that are shown newest first, up to a count, and what two readers of
such a list can tell apart. Elements with the same key keep the order they came
in. Two lists whose visible elements agree show the same exactly when they show
the same hidden elements at the same places.
-/

namespace TradingStrands.Foundation

section Sorting

variable {α : Type} {r : α → α → Prop} [DecidableRel r]

/-- Inserting and then hiding is hiding and then inserting. -/
theorem filter_orderedInsert [IsTrans α r] (visible : α → Bool) (element : α) {sorted : List α}
    (order : sorted.Pairwise r) :
    (sorted.orderedInsert r element).filter visible =
      if visible element = true then (sorted.filter visible).orderedInsert r element
      else sorted.filter visible := by
  induction sorted with
  | nil => by_cases shown : visible element = true <;> simp [shown]
  | cons head tail inductionHypothesis =>
      obtain ⟨first, later⟩ := List.pairwise_cons.mp order
      by_cases before : r element head
      · rw [List.orderedInsert_cons_of_le _ tail before]
        by_cases shown : visible element = true
        · rw [if_pos shown, List.filter_cons_of_pos shown]
          have leads : ∀ other ∈ (head :: tail).filter visible, r element other := by
            intro other member
            rcases List.mem_cons.mp (List.mem_filter.mp member).1 with rfl | inside
            · exact before
            · exact IsTrans.trans _ _ _ before (first other inside)
          cases rest : (head :: tail).filter visible with
          | nil => rfl
          | cons next others =>
              rw [rest] at leads
              rw [List.orderedInsert_cons_of_le _ others (leads next List.mem_cons_self)]
        · rw [if_neg shown, List.filter_cons_of_neg shown]
      · rw [List.orderedInsert_of_not_le _ tail before]
        by_cases here : visible head = true
        · rw [List.filter_cons_of_pos here, List.filter_cons_of_pos here, inductionHypothesis later]
          split
          · rw [List.orderedInsert_of_not_le _ _ before]
          · rfl
        · rw [List.filter_cons_of_neg here, List.filter_cons_of_neg here, inductionHypothesis later]

/-- Sorting and hiding commute. -/
theorem filter_insertionSort [IsTrans α r] [Std.Total r] (visible : α → Bool) (elements : List α) :
    (elements.insertionSort r).filter visible = (elements.filter visible).insertionSort r := by
  induction elements with
  | nil => rfl
  | cons head tail inductionHypothesis =>
      rw [List.insertionSort_cons, filter_orderedInsert visible head
        (List.pairwise_insertionSort r tail), inductionHypothesis]
      by_cases shown : visible head = true
      · rw [if_pos shown, List.filter_cons_of_pos shown, List.insertionSort_cons]
      · rw [if_neg shown, List.filter_cons_of_neg shown]

end Sorting

section Newest

variable {α β κ : Type} [LinearOrder κ]

instance newestTotal (key : α → κ) : Std.Total fun left right : α => key right ≤ key left :=
  ⟨fun left right => le_total (key right) (key left)⟩

instance newestTrans (key : α → κ) : IsTrans α fun left right => key right ≤ key left :=
  ⟨fun _ _ _ first second => second.trans first⟩

/-- Sort by the key, the greatest first; the sort is stable. -/
def newestFirst (key : α → κ) (elements : List α) : List α :=
  elements.insertionSort fun left right => key right ≤ key left

/-- The first `count` of the newest. -/
def newest (key : α → κ) (count : Nat) (elements : List α) : List α :=
  (newestFirst key elements).take count

theorem map_newest (key : β → κ) (present : α → β) (count : Nat) (elements : List α) :
    (newest (fun element => key (present element)) count elements).map present =
      newest key count (elements.map present) := by
  unfold newest newestFirst
  rw [List.map_take, List.map_insertionSort _ fun left right => key right ≤ key left]
  exact fun _ _ _ _ => Iff.rfl

/-- What is visible of the newest comes first among all that is visible. -/
theorem filter_newest_leads (key : α → κ) (visible : α → Bool) (count : Nat)
    (elements : List α) :
    (newest key count elements).filter visible <+: newestFirst key (elements.filter visible) := by
  unfold newest newestFirst
  rw [← filter_insertionSort]
  exact (List.take_prefix count _).filter visible

theorem perm_newestFirst (key : α → κ) (elements : List α) :
    (newestFirst key elements).Perm elements :=
  List.perm_insertionSort _ elements

/-- Read from the back, the newest first are the oldest first. -/
theorem pairwise_reverse_newestFirst (key : α → κ) (elements : List α) :
    (newestFirst key elements).reverse.Pairwise fun left right => key left ≤ key right := by
  rw [List.pairwise_reverse]
  exact List.pairwise_insertionSort _ elements

theorem filter_newestFirst (key : α → κ) (visible : α → Bool) (elements : List α) :
    (newestFirst key elements).filter visible = newestFirst key (elements.filter visible) :=
  filter_insertionSort visible elements

/-- Elements of one key keep their order. -/
theorem filter_newestFirst_key (key : α → κ) (at_ : κ) (elements : List α) :
    (newestFirst key elements).filter (fun element => key element = at_) =
      elements.filter fun element => key element = at_ := by
  rw [filter_newestFirst]
  refine List.Pairwise.insertionSort_eq (List.pairwise_of_forall_mem_list ?_)
  intro left inLeft right inRight
  rw [of_decide_eq_true (List.mem_filter.mp inLeft).2,
    of_decide_eq_true (List.mem_filter.mp inRight).2]

theorem newest_of_length_le (key : α → κ) {count : Nat} {elements : List α}
    (fits : elements.length ≤ count) : newest key count elements = newestFirst key elements := by
  unfold newest
  rw [List.take_of_length_le]
  rw [(perm_newestFirst key elements).length_eq]
  exact fits

end Newest

section Oldest

variable {α κ : Type} [LinearOrder κ]

instance oldestTotal (key : α → κ) : Std.Total fun left right : α => key left ≤ key right :=
  ⟨fun left right => le_total (key left) (key right)⟩

instance oldestTrans (key : α → κ) : IsTrans α fun left right => key left ≤ key right :=
  ⟨fun _ _ _ first second => first.trans second⟩

/-- Sort by the key, the least first; the sort is stable. -/
def oldestFirst (key : α → κ) (elements : List α) : List α :=
  elements.insertionSort fun left right => key left ≤ key right

theorem perm_oldestFirst (key : α → κ) (elements : List α) :
    (oldestFirst key elements).Perm elements :=
  List.perm_insertionSort _ elements

theorem pairwise_oldestFirst (key : α → κ) (elements : List α) :
    (oldestFirst key elements).Pairwise fun left right => key left ≤ key right :=
  List.pairwise_insertionSort _ elements

end Oldest

section Hidden

variable {α : Type} (visible : α → Bool)

/-- The hidden elements, each at its place. -/
def hidden (elements : List α) : List (Option α) :=
  elements.map fun element => if visible element = true then none else some element

variable {visible}

/-- Two lists are the same if their hidden elements are, and the visible ones of
both are the first of one list. -/
theorem eq_of_hidden_eq {left right shown : List α}
    (fromLeft : left.filter visible <+: shown) (fromRight : right.filter visible <+: shown)
    (same : hidden visible left = hidden visible right) : left = right := by
  induction left generalizing right shown with
  | nil => exact (List.map_eq_nil_iff.mp same.symm).symm
  | cons head tail inductionHypothesis =>
      cases right with
      | nil => cases same
      | cons other others =>
          obtain ⟨here, later⟩ := List.cons.inj same
          dsimp only at here
          by_cases seen : visible head = true
          · have seenOther : visible other = true := by
              by_contra unseen
              rw [if_pos seen, if_neg unseen] at here
              cases here
            rw [List.filter_cons_of_pos seen] at fromLeft
            rw [List.filter_cons_of_pos seenOther] at fromRight
            cases shown with
            | nil => cases List.prefix_nil.mp fromLeft
            | cons first rest =>
                obtain ⟨leads, leftTail⟩ := List.cons_prefix_cons.mp fromLeft
                obtain ⟨leadsToo, rightTail⟩ := List.cons_prefix_cons.mp fromRight
                rw [leads, leadsToo, inductionHypothesis leftTail rightTail later]
          · have unseenOther : visible other ≠ true := by
              intro seenOther
              rw [if_neg seen, if_pos seenOther] at here
              cases here
            rw [if_neg seen, if_neg unseenOther] at here
            cases here
            rw [List.filter_cons_of_neg seen] at fromLeft
            rw [List.filter_cons_of_neg seen] at fromRight
            rw [inductionHypothesis fromLeft fromRight later]

/-- Where the visible elements agree, the newest agree exactly if the hidden ones
among them do. -/
theorem newest_eq_iff {κ : Type} [LinearOrder κ] {key : α → κ} {left right : List α}
    (agree : left.filter visible = right.filter visible) (count : Nat) :
    newest key count left = newest key count right ↔
      hidden visible (newest key count left) = hidden visible (newest key count right) := by
  constructor
  · exact fun same => congrArg (hidden visible) same
  · have fromLeft := filter_newest_leads key visible count left
    rw [agree] at fromLeft
    exact eq_of_hidden_eq fromLeft (filter_newest_leads key visible count right)

end Hidden

end TradingStrands.Foundation
