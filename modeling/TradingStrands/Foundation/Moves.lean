import TradingStrands.Foundation.Programs
import Mathlib.Data.List.Basic

/-!
Owns interleavings whose operations all complete: what one move does to a pool of
threads, and how many of the threads satisfy a test before and after it.

Does not own: any particular state, operation or request.
-/

namespace TradingStrands.Foundation

/-- A request starts, or the next operation of a thread completes. -/
inductive Move (ι : Type)
  | start (request : ι)
  | advance (thread : Nat)
deriving DecidableEq, Repr

def Move.event {ε ι : Type} : Move ι → PoolEvent ε ι
  | .start request => .start request
  | .advance thread => .advance thread none

namespace Pool

variable {Op : Type} {Answer : Op → Type} {ε α σ ι : Type}
  {apply : (op : Op) → σ → Answer op × σ} {programOf : ι → Program Op Answer ε α}

/-- The pool after a move. -/
def move (apply : (op : Op) → σ → Answer op × σ) (programOf : ι → Program Op Answer ε α)
    (pool : Pool Op Answer ε α σ ι) (next : Move ι) : Pool Op Answer ε α σ ι :=
  pool.step apply programOf next.event

/-- What a move does: it adds a thread, takes one of them a step further, or does
nothing. -/
theorem move_cases (pool : Pool Op Answer ε α σ ι) (move_ : Move ι) :
    (∃ request, move_ = .start request ∧ pool.move apply programOf move_ =
        { pool with threads := pool.threads ++ [⟨request, programOf request⟩] }) ∨
      (∃ index before request op next after, move_ = .advance index ∧
        pool.threads[index]? = some ⟨request, .call op next⟩ ∧
        pool.threads = before ++ ⟨request, .call op next⟩ :: after ∧
        pool.move apply programOf move_ =
          { state := (apply op pool.state).2
            threads := before ++ ⟨request, next (.ok (apply op pool.state).1)⟩ :: after }) ∨
      pool.move apply programOf move_ = pool := by
  cases move_ with
  | start request => exact .inl ⟨request, rfl, rfl⟩
  | advance index =>
      unfold move Move.event Pool.step
      dsimp only
      split
      next request op next found =>
        obtain ⟨bound, here⟩ := List.getElem?_eq_some_iff.mp found
        have cut : pool.threads = pool.threads.take index ++ pool.threads[index] ::
            pool.threads.drop (index + 1) := by
          rw [List.getElem_cons_drop, List.take_append_drop]
        refine .inr (.inl ⟨index, pool.threads.take index, request, op, next,
          pool.threads.drop (index + 1), rfl, found, ?_, ?_⟩)
        · rw [here] at cut
          exact cut
        · rw [List.set_eq_take_append_cons_drop, if_pos bound]
      next => exact .inr (.inr rfl)

theorem forall_start {τ : Type} {P : τ → Prop} {threads : List τ} {new : τ}
    (all : ∀ thread ∈ threads, P thread) (added : P new) : ∀ thread ∈ threads ++ [new], P thread := by
  intro thread member
  rcases List.mem_append.mp member with old | last
  · exact all thread old
  · rw [List.mem_singleton.mp last]
    exact added

theorem forall_advance {τ : Type} {P : τ → Prop} {threads before after : List τ} {old new : τ}
    (cut : threads = before ++ old :: after) (all : ∀ thread ∈ threads, P thread) (changed : P new) :
    ∀ thread ∈ before ++ new :: after, P thread := by
  rw [cut] at all
  intro thread member
  rcases List.mem_append.mp member with early | rest
  · exact all thread (List.mem_append_left _ early)
  · rcases List.mem_cons.mp rest with rfl | late
    · exact changed
    · exact all thread (List.mem_append_right _ (List.mem_cons_of_mem _ late))

/-- How many threads satisfy a test. -/
def count (test : Thread Op Answer ε α ι → Bool) (pool : Pool Op Answer ε α σ ι) : Nat :=
  pool.threads.countP test

variable {test : Thread Op Answer ε α ι → Bool} {pool : Pool Op Answer ε α σ ι}

theorem count_start (test : Thread Op Answer ε α ι → Bool) (pool : Pool Op Answer ε α σ ι)
    (thread : Thread Op Answer ε α ι) :
    ({ pool with threads := pool.threads ++ [thread] } : Pool Op Answer ε α σ ι).count test =
      pool.count test + (if test thread = true then 1 else 0) := by
  unfold count
  rw [List.countP_append, List.countP_singleton]

/-- A thread that goes on counts as what it has become. -/
theorem count_advance {before after : List (Thread Op Answer ε α ι)}
    {old : Thread Op Answer ε α ι} (threads : pool.threads = before ++ old :: after)
    (test : Thread Op Answer ε α ι → Bool) (state : σ) (new : Thread Op Answer ε α ι) :
    ({ state, threads := before ++ new :: after } : Pool Op Answer ε α σ ι).count test +
        (if test old = true then 1 else 0) =
      pool.count test + (if test new = true then 1 else 0) := by
  unfold count
  rw [threads, List.countP_append, List.countP_append, List.countP_cons, List.countP_cons]
  omega

theorem count_advance_of_eq {before after : List (Thread Op Answer ε α ι)}
    {old new : Thread Op Answer ε α ι} (threads : pool.threads = before ++ old :: after)
    (same : test new = test old) (state : σ) :
    ({ state, threads := before ++ new :: after } : Pool Op Answer ε α σ ι).count test =
      pool.count test := by
  have counts := count_advance threads test state new
  rw [same] at counts
  exact Nat.add_right_cancel counts

theorem count_advance_of_new {before after : List (Thread Op Answer ε α ι)}
    {old new : Thread Op Answer ε α ι} (threads : pool.threads = before ++ old :: after)
    (was : test old = false) (is_ : test new = true) (state : σ) :
    ({ state, threads := before ++ new :: after } : Pool Op Answer ε α σ ι).count test =
      pool.count test + 1 := by
  have counts := count_advance threads test state new
  rw [was, is_] at counts
  exact counts

/-- The threads that satisfy a test, with and without a mark. -/
theorem count_split (pool : Pool Op Answer ε α σ ι) (test mark : Thread Op Answer ε α ι → Bool) :
    pool.count test = pool.count (fun thread => test thread && mark thread) +
      pool.count fun thread => test thread && !mark thread := by
  unfold count
  induction pool.threads with
  | nil => rfl
  | cons head tail inductionHypothesis =>
      rw [List.countP_cons, List.countP_cons, List.countP_cons, inductionHypothesis]
      cases test head <;> cases mark head <;> simp only [Bool.and_true, Bool.and_false,
        Bool.not_true, Bool.not_false, if_true, Bool.false_eq_true, if_false] <;> omega

theorem count_mono {stronger weaker : Thread Op Answer ε α ι → Bool}
    (implies : ∀ thread, stronger thread = true → weaker thread = true)
    (pool : Pool Op Answer ε α σ ι) : pool.count stronger ≤ pool.count weaker :=
  List.countP_mono_left fun thread _ => implies thread

end Pool

end TradingStrands.Foundation
