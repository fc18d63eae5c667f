import Mathlib.Algebra.Order.Ring.Int
import TradingStrands.Foundation.Dict
import TradingStrands.Foundation.Runs

/-!
Owns rows that expire. A write replaces the row of its key and lets it live for a
fixed time from the write; a write that fails may be lost or kept. Whoever keeps
the table may remove a row once it has expired, and need not. So a row that is
there is the last write that was kept, and such a write is there while it lives.
-/

namespace TradingStrands.Foundation

/-- A value and the last moment at which its row may not be removed. -/
structure Lease (α : Type) where
  value : α
  expires : Int
deriving DecidableEq, Repr

inductive ExpiryEvent (κ α : Type)
  | write (key : κ) (value : α) (at_ : Int) (kept : Bool)
  | reclaim (key : κ) (at_ : Int)

namespace ExpiryEvent

variable {κ α : Type}

def key : ExpiryEvent κ α → κ
  | write key _ _ _ => key
  | reclaim key _ => key

def time : ExpiryEvent κ α → Int
  | write _ _ at_ _ => at_
  | reclaim _ at_ => at_

end ExpiryEvent

namespace Expiry

variable {κ α : Type} [DecidableEq κ] (lifetime : Int)

def step (table : Dict κ (Lease α)) : ExpiryEvent κ α → Dict κ (Lease α)
  | .write key value at_ kept =>
      if kept = true then table.set key ⟨value, at_ + lifetime⟩ else table
  | .reclaim key at_ =>
      match table.get? key with
      | some lease => if lease.expires < at_ then table.erase key else table
      | none => table

/-- The value and the time of a write of the key that is kept. -/
def keptWrite? (key : κ) : ExpiryEvent κ α → Option (α × Int)
  | .write other value at_ kept => if other = key ∧ kept = true then some (value, at_) else none
  | .reclaim _ _ => none

/-- The last write of the key that was kept. -/
def lastWrite? (key : κ) (events : List (ExpiryEvent κ α)) : Option (α × Int) :=
  (events.filterMap (keptWrite? key)).getLast?

theorem lastWrite?_concat (key : κ) (events : List (ExpiryEvent κ α)) (event : ExpiryEvent κ α) :
    lastWrite? key (events ++ [event]) = (keptWrite? key event).or (lastWrite? key events) := by
  unfold lastWrite?
  rw [List.filterMap_append]
  cases write : keptWrite? key event with
  | none =>
      rw [List.filterMap_cons_none write, List.filterMap_nil, List.append_nil]
      rfl
  | some written =>
      rw [List.filterMap_cons_some write, List.filterMap_nil, List.getLast?_concat]
      rfl

/-- The lease of a write. -/
def leaseOf (write : α × Int) : Lease α := ⟨write.1, write.2 + lifetime⟩

/-- What a step does to the row of a key. -/
theorem get?_step (table : Dict κ (Lease α)) (event : ExpiryEvent κ α) (key : κ) :
    (step lifetime table event).get? key =
        ((keptWrite? key event).map (leaseOf lifetime)).or (table.get? key) ∨
      (step lifetime table event).get? key = none ∧ keptWrite? key event = none ∧
        ∃ lease, table.get? key = some lease ∧ lease.expires < event.time := by
  cases event with
  | write other value at_ kept =>
      left
      show (if kept = true then table.set other ⟨value, at_ + lifetime⟩ else table).get? key =
        ((if other = key ∧ kept = true then some (value, at_) else none).map
          (leaseOf lifetime)).or (table.get? key)
      by_cases lands : kept = true
      · rw [if_pos lands, Dict.get?_set]
        by_cases same : key = other
        · rw [if_pos same, if_pos ⟨same.symm, lands⟩]
          rfl
        · rw [if_neg same, if_neg fun both => same both.1.symm]
          rfl
      · rw [if_neg lands, if_neg fun both => lands both.2]
        rfl
  | reclaim other at_ =>
      unfold step
      dsimp only
      cases found : table.get? other with
      | none => exact Or.inl rfl
      | some lease =>
          dsimp only
          by_cases expired : lease.expires < at_
          · rw [if_pos expired]
            by_cases same : key = other
            · right
              subst same
              exact ⟨Dict.get?_erase_self _ _, rfl, lease, found, expired⟩
            · left
              exact Dict.get?_erase_of_ne _ same
          · rw [if_neg expired]
            exact Or.inl rfl

/-- A row that is there is the last write of its key that was kept. -/
theorem lastWrite?_of_get? {events : List (ExpiryEvent κ α)} {key : κ} {lease : Lease α}
    (found : (run (step lifetime) Dict.empty events).get? key = some lease) :
    lastWrite? key events = some (lease.value, lease.expires - lifetime) := by
  induction events using List.reverseRecOn generalizing lease with
  | nil => cases found
  | append_singleton events event inductionHypothesis =>
      rw [run_concat] at found
      rw [lastWrite?_concat]
      rcases get?_step lifetime (run (step lifetime) Dict.empty events) event key with
        kept | ⟨gone, -⟩
      · rw [kept] at found
        cases write : keptWrite? key event with
        | none =>
            rw [write] at found
            exact inductionHypothesis found
        | some written =>
            rw [write] at found
            obtain rfl := Option.some.inj found
            simp [leaseOf]
      · rw [gone] at found
        cases found

/-- A write that was kept last is there while it lives. -/
theorem get?_of_lastWrite? {events : List (ExpiryEvent κ α)} {key : κ} {value : α} {at_ now : Int}
    (past : ∀ event ∈ events, event.time ≤ now) (last : lastWrite? key events = some (value, at_))
    (lives : now ≤ at_ + lifetime) :
    (run (step lifetime) Dict.empty events).get? key = some ⟨value, at_ + lifetime⟩ := by
  induction events using List.reverseRecOn with
  | nil => cases last
  | append_singleton events event inductionHypothesis =>
      have before := inductionHypothesis fun other member => past other (by simp [member])
      have here := past event (by simp)
      rw [lastWrite?_concat] at last
      rw [run_concat]
      rcases get?_step lifetime (run (step lifetime) Dict.empty events) event key with
        kept | ⟨-, none, lease, found, expired⟩
      · rw [kept]
        cases write : keptWrite? key event with
        | none =>
            rw [write] at last
            exact before last
        | some written =>
            rw [write] at last
            obtain rfl := Option.some.inj last
            rfl
      · rw [none] at last
        rw [before last] at found
        obtain rfl := Option.some.inj found
        dsimp only at expired
        omega

end Expiry

end TradingStrands.Foundation
