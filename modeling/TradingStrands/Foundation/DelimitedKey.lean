import Mathlib.Data.String.Basic
import Mathlib.Data.List.Basic

/-!
Owns composite string keys `family ++ id ++ delimiter ++ rest` and prefix
matching on them. When ids do not contain the delimiter, a key begins with the
prefix of an id exactly when it was built from that id. Keys of different
families differ, whatever their ids are.
-/

namespace TradingStrands.Foundation

/-- Whether `text` starts with `lead`. -/
def beginsWith (text lead : String) : Bool :=
  lead.toList.isPrefixOf text.toList

theorem beginsWith_iff {text lead : String} :
    beginsWith text lead = true ↔ lead.toList <+: text.toList :=
  List.isPrefixOf_iff_prefix

/-- No character of `id` is the delimiter. -/
def FreeOf (delimiter : Char) (id : String) : Prop :=
  delimiter ∉ id.toList

instance (delimiter : Char) (id : String) : Decidable (FreeOf delimiter id) := by
  unfold FreeOf
  infer_instance

/-- An id without the delimiter. -/
structure PlainId (delimiter : Char) where
  text : String
  free : FreeOf delimiter text
deriving DecidableEq

namespace PlainId

variable {delimiter : Char} {left right : PlainId delimiter}

theorem eq_of_text (same : left.text = right.text) : left = right := by
  cases left
  cases right
  cases same
  rfl

@[simp] theorem text_inj : left.text = right.text ↔ left = right := by
  constructor
  · exact eq_of_text
  · rintro rfl
    rfl

end PlainId

private theorem prefix_delimited {delimiter : Char} {left right rest : List Char}
    (leftFree : delimiter ∉ left) (rightFree : delimiter ∉ right) :
    left ++ [delimiter] <+: right ++ delimiter :: rest ↔ left = right := by
  constructor
  · rintro ⟨tail, joined⟩
    rw [List.append_assoc, List.singleton_append] at joined
    induction left generalizing right with
    | nil =>
        cases right with
        | nil => rfl
        | cons head right =>
            obtain ⟨same, -⟩ := List.cons.inj joined
            exact absurd (same ▸ List.mem_cons_self) rightFree
    | cons head left inductionHypothesis =>
        cases right with
        | nil =>
            obtain ⟨same, -⟩ := List.cons.inj joined
            exact absurd (same ▸ List.mem_cons_self) leftFree
        | cons other right =>
            obtain ⟨rfl, rest'⟩ := List.cons.inj joined
            rw [inductionHypothesis (fun member => leftFree (List.mem_cons_of_mem _ member))
              (fun member => rightFree (List.mem_cons_of_mem _ member)) rest']
  · rintro rfl
    exact ⟨rest, by simp⟩

/-- Keys of one family match the prefix of an id exactly when they carry it. -/
theorem beginsWith_delimited {family left right rest mark : String} {delimiter : Char}
    (isMark : mark.toList = [delimiter])
    (leftFree : FreeOf delimiter left) (rightFree : FreeOf delimiter right) :
    beginsWith (family ++ right ++ mark ++ rest) (family ++ left ++ mark) = true ↔
      left = right := by
  rw [beginsWith_iff]
  simp only [String.toList_append, isMark, List.append_assoc, List.prefix_append_right_inj,
    List.singleton_append]
  rw [prefix_delimited leftFree rightFree, String.toList_inj]

/-- A key does not match a prefix it already differs from at some character. -/
theorem not_beginsWith_of_get {text lead : String} {index : Nat} {inLead inText : Char}
    (leadAt : lead.toList[index]? = some inLead) (textAt : text.toList[index]? = some inText)
    (different : inLead ≠ inText) : beginsWith text lead = false := by
  rw [← Bool.not_eq_true, beginsWith_iff]
  rintro ⟨tail, joined⟩
  have below : index < lead.toList.length := by
    by_contra beyond
    rw [List.getElem?_eq_none (Nat.le_of_not_lt beyond)] at leadAt
    exact absurd leadAt (by simp)
  rw [← joined, List.getElem?_append_left below, leadAt] at textAt
  exact different (Option.some.inj textAt)

/-- Keys that differ at one position are different. -/
theorem ne_of_get {left right : String} (index : Nat) {inLeft inRight : Char}
    (leftAt : left.toList[index]? = some inLeft) (rightAt : right.toList[index]? = some inRight)
    (different : inLeft ≠ inRight) : left ≠ right := by
  rintro rfl
  exact different (Option.some.inj (leftAt.symm.trans rightAt))

/-- A key whose last part is free of the delimiter says which parts it has. -/
theorem delimited_inj {delimiter : Char} {left right front back : List Char}
    (backFree : delimiter ∉ back) (rightFree : delimiter ∉ right)
    (same : left ++ delimiter :: right = front ++ delimiter :: back) :
    left = front ∧ right = back := by
  have reversed : right.reverse ++ delimiter :: left.reverse =
      back.reverse ++ delimiter :: front.reverse := by
    have lists := congrArg List.reverse same
    simpa using lists
  have begins : right.reverse ++ [delimiter] <+: back.reverse ++ delimiter :: front.reverse :=
    ⟨left.reverse, by rw [← reversed, List.append_assoc, List.singleton_append]⟩
  have lasts := (prefix_delimited (by simpa using rightFree) (by simpa using backFree)).mp begins
  rw [lasts, List.append_cancel_left_eq] at reversed
  exact ⟨List.reverse_inj.mp (List.cons.inj reversed).2, List.reverse_inj.mp lasts⟩

theorem joined_inj {left right front back mark : String} {delimiter : Char}
    (isMark : mark.toList = [delimiter]) (rightFree : FreeOf delimiter right)
    (backFree : FreeOf delimiter back) (same : left ++ mark ++ right = front ++ mark ++ back) :
    left = front ∧ right = back := by
  have chars := congrArg String.toList same
  simp only [String.toList_append, isMark, List.append_assoc, List.singleton_append] at chars
  obtain ⟨fronts, backs⟩ := delimited_inj backFree rightFree chars
  exact ⟨String.toList_inj.mp fronts, String.toList_inj.mp backs⟩

/-! ### Families -/

/-- What a key begins with, up to the first delimiter. -/
def familyOf (delimiter : Char) (text : String) : List Char :=
  text.toList.takeWhile (· ≠ delimiter)

theorem familyOf_append {delimiter : Char} {family mark rest : String}
    (isMark : mark.toList = [delimiter]) (free : FreeOf delimiter family) :
    familyOf delimiter (family ++ mark ++ rest) = family.toList := by
  unfold familyOf
  rw [String.toList_append, String.toList_append, isMark, List.append_assoc,
    List.takeWhile_append_of_pos]
  · simp
  · intro char member
    simp only [decide_eq_true_eq]
    rintro rfl
    exact free member

/-- Keys of different families are different. -/
theorem ne_of_family {delimiter : Char} {left right : String}
    (different : familyOf delimiter left ≠ familyOf delimiter right) : left ≠ right := by
  rintro rfl
  exact different rfl

/-- A key matches the prefix of a family only if it is of this family. -/
theorem familyOf_of_beginsWith {delimiter : Char} {text family mark rest : String}
    (isMark : mark.toList = [delimiter]) (free : FreeOf delimiter family)
    (begins : beginsWith text (family ++ mark ++ rest) = true) :
    familyOf delimiter text = family.toList := by
  rw [beginsWith_iff] at begins
  obtain ⟨tail, joined⟩ := begins
  have split : text = family ++ mark ++ (rest ++ String.ofList tail) := by
    rw [← String.toList_inj, ← joined]
    simp only [String.toList_append, List.append_assoc, String.toList_ofList]
  rw [split, familyOf_append isMark free]

end TradingStrands.Foundation
