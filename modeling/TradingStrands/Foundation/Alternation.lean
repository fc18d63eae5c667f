import Mathlib.Data.List.Sort
import Mathlib.Data.Nat.Bits

/-!
Owns flags that alternate: the first is a given one and each differs from the
one before it. Such a list is determined by its first flag and its length, so
its last flag says whether the length is odd. A list that is sorted by a key
alternates exactly if each group of equal keys does, started with the flag that
the number of smaller keys gives.
-/

namespace TradingStrands.Foundation

/-- The flags are `first`, its negation, and so on. -/
def AlternatesFrom : Bool → List Bool → Prop
  | _, [] => True
  | first, flag :: rest => flag = first ∧ AlternatesFrom (!first) rest

instance decidableAlternatesFrom (first : Bool) (flags : List Bool) :
    Decidable (AlternatesFrom first flags) :=
  match flags with
  | [] => inferInstanceAs (Decidable True)
  | flag :: rest =>
      have := decidableAlternatesFrom (!first) rest
      inferInstanceAs (Decidable (flag = first ∧ AlternatesFrom (!first) rest))

@[simp] theorem alternatesFrom_nil (first : Bool) : AlternatesFrom first [] := trivial

@[simp] theorem alternatesFrom_cons {first flag : Bool} {rest : List Bool} :
    AlternatesFrom first (flag :: rest) ↔ flag = first ∧ AlternatesFrom (!first) rest :=
  Iff.rfl

/-- The last flag is told by the parity of the length. -/
theorem AlternatesFrom.getLastD {first : Bool} {flags : List Bool}
    (alternates : AlternatesFrom first flags) :
    flags.getLastD (!first) = (!first ^^ flags.length.bodd) := by
  induction flags generalizing first with
  | nil => exact (Bool.xor_false _).symm
  | cons flag rest inductionHypothesis =>
      obtain ⟨rfl, later⟩ := alternates
      have tail := inductionHypothesis later
      rw [Bool.not_not] at tail
      rw [List.getLastD_cons, tail, List.length_cons, Nat.bodd_succ]
      cases flag <;> cases rest.length.bodd <;> rfl

/-- One more flag alternates if it is the one the length asks for. -/
theorem alternatesFrom_concat {first last : Bool} {flags : List Bool} :
    AlternatesFrom first (flags ++ [last]) ↔
      AlternatesFrom first flags ∧ last = (first ^^ flags.length.bodd) := by
  induction flags generalizing first with
  | nil => simp
  | cons flag rest inductionHypothesis =>
      rw [List.cons_append, alternatesFrom_cons, alternatesFrom_cons, inductionHypothesis,
        List.length_cons, Nat.bodd_succ, and_assoc, Bool.not_xor, Bool.xor_not]

/-- Two alternating lists of one length are the same. -/
theorem AlternatesFrom.eq_of_length {first : Bool} {left right : List Bool}
    (alternates : AlternatesFrom first left) (alternatesToo : AlternatesFrom first right)
    (same : left.length = right.length) : left = right := by
  induction left generalizing first right with
  | nil => exact (List.length_eq_zero_iff.mp same.symm).symm
  | cons flag rest inductionHypothesis =>
      cases right with
      | nil => cases same
      | cons other others =>
          obtain ⟨rfl, later⟩ := alternates
          obtain ⟨rfl, laterToo⟩ := alternatesToo
          rw [inductionHypothesis later laterToo (Nat.succ_inj.mp same)]

section Sorted

variable {α κ : Type} [LinearOrder κ] (key : α → κ) (flag : α → Bool)

/-- The flag with which the group of a key starts. -/
def groupStart (first : Bool) (elements : List α) (at_ : κ) : Bool :=
  first ^^ (elements.countP fun element => key element < at_).bodd

theorem groupStart_perm {left right : List α} (permutation : left.Perm right) (first : Bool)
    (at_ : κ) : groupStart key first left at_ = groupStart key first right at_ := by
  unfold groupStart
  rw [permutation.countP_eq]

/-- What the first element of a sorted list adds to the group of a key: it leads
its own group and turns the start of the groups above. -/
private theorem alternatesFrom_group_cons {head : α} {tail : List α}
    (least : ∀ element ∈ tail, key head ≤ key element) (first : Bool) (at_ : κ) :
    AlternatesFrom (groupStart key first (head :: tail) at_)
        (((head :: tail).filter fun element => key element = at_).map flag) ↔
      (key head = at_ → flag head = first) ∧
        AlternatesFrom (groupStart key (!first) tail at_)
          ((tail.filter fun element => key element = at_).map flag) := by
  have none_below : at_ ≤ key head → tail.countP (fun element => key element < at_) = 0 := by
    intro below
    rw [List.countP_eq_zero]
    intro element member
    simp only [decide_eq_true_eq, not_lt]
    exact below.trans (least element member)
  unfold groupStart
  rcases lt_trichotomy at_ (key head) with below | rfl | above
  · have empty : tail.filter (fun element => key element = at_) = [] := by
      rw [List.filter_eq_nil_iff]
      intro element member
      simp [(below.trans_le (least element member)).ne']
    rw [List.filter_cons_of_neg (by simpa using below.ne'), empty]
    simp [below.ne']
  · rw [List.countP_cons_of_neg (by simp), none_below le_rfl, List.filter_cons_of_pos (by simp)]
    simp
  · rw [List.countP_cons_of_pos (by simpa using above), Nat.bodd_succ,
      List.filter_cons_of_neg (by simpa using above.ne)]
    simp [above.ne]

/-- In a sorted list the groups of equal keys decide whether the flags alternate. -/
theorem alternatesFrom_sorted_iff {elements : List α}
    (sorted : elements.Pairwise fun left right => key left ≤ key right) (first : Bool) :
    AlternatesFrom first (elements.map flag) ↔
      ∀ at_, AlternatesFrom (groupStart key first elements at_)
        ((elements.filter fun element => key element = at_).map flag) := by
  induction elements generalizing first with
  | nil => simp
  | cons head tail inductionHypothesis =>
      obtain ⟨least, later⟩ := List.pairwise_cons.mp sorted
      rw [List.map_cons, alternatesFrom_cons, inductionHypothesis later]
      simp only [alternatesFrom_group_cons key flag least first]
      constructor
      · exact fun both at_ => ⟨fun _ => both.1, both.2 at_⟩
      · exact fun groups => ⟨(groups (key head)).1 rfl, fun at_ => (groups at_).2⟩

end Sorted

end TradingStrands.Foundation
