import TradingStrands.Foundation.Runs

/-!
Owns programs that run on a shared state one atomic operation at a time: what
they do undisturbed, when they are cut off after some operations, when chosen
operations raise, and when any number of them interleave.

Two rules carry invariants. `All` bounds the operations a program can issue.
`Ensures` is the rule for interleaved programs: `Rely` is what the others may
have done between two operations, and what this program's own may do.

Does not own: any particular state or operation.
-/

namespace TradingStrands.Foundation

/-- A program over operations `Op`. An operation answers or raises. -/
inductive Program (Op : Type) (Answer : Op → Type) (ε α : Type)
  | done (outcome : Except ε α)
  | call (op : Op) (next : Except ε (Answer op) → Program Op Answer ε α)

namespace Program

variable {Op : Type} {Answer : Op → Type} {ε α β : Type}

/-! ### Composition -/

def bind : Program Op Answer ε α → (α → Program Op Answer ε β) → Program Op Answer ε β
  | .done (.ok value), rest => rest value
  | .done (.error error), _ => .done (.error error)
  | .call op next, rest => .call op fun answer => (next answer).bind rest

theorem bind_assoc {γ : Type} (program : Program Op Answer ε α) (rest : α → Program Op Answer ε β)
    (last : β → Program Op Answer ε γ) :
    (program.bind rest).bind last = program.bind fun value => (rest value).bind last := by
  induction program with
  | done outcome => cases outcome <;> rfl
  | call op next inductionHypothesis =>
      simp only [bind, inductionHypothesis]

/-- Run `handler` where the program raises. -/
def handle : Program Op Answer ε α → (ε → Program Op Answer ε α) → Program Op Answer ε α
  | .done (.ok value), _ => .done (.ok value)
  | .done (.error error), handler => handler error
  | .call op next, handler => .call op fun answer => (next answer).handle handler

instance : Monad (Program Op Answer ε) where
  pure value := .done (.ok value)
  bind := bind

instance : MonadExceptOf ε (Program Op Answer ε) where
  throw error := .done (.error error)
  tryCatch := handle

/-- Whether the program has come to its end without raising. -/
def returned : Program Op Answer ε α → Bool
  | .done (.ok _) => true
  | _ => false

/-- Whether the program has come to its end. -/
def ended : Program Op Answer ε α → Bool
  | .done _ => true
  | .call _ _ => false

/-- One operation. -/
def perform (op : Op) : Program Op Answer ε (Answer op) := .call op .done

/-! ### Execution -/

section Execution

variable {σ : Type} (apply : (op : Op) → σ → Answer op × σ)

/-- Run to the end, undisturbed. -/
def run : Program Op Answer ε α → σ → Except ε α × σ
  | .done outcome, state => (outcome, state)
  | .call op next, state => run (next (.ok (apply op state).1)) (apply op state).2

/-- The state once the first operations have been performed. -/
def after : Nat → Program Op Answer ε α → σ → σ
  | 0, _, state => state
  | _ + 1, .done _, state => state
  | count + 1, .call op next, state =>
      after count (next (.ok (apply op state).1)) (apply op state).2

/-- What happens at an operation. A stopped program never goes on. -/
inductive Fate (ε : Type)
  | completes
  | raises (error : ε)
  | stops
deriving DecidableEq, Repr

/-- Run while each operation meets the fate it is given; a stopped program has
no outcome. -/
def execute (plan : Op → Fate ε) : Program Op Answer ε α → σ → Option (Except ε α) × σ
  | .done outcome, state => (some outcome, state)
  | .call op next, state =>
      match plan op with
      | .completes => execute plan (next (.ok (apply op state).1)) (apply op state).2
      | .raises error => execute plan (next (.error error)) state
      | .stops => (none, state)

@[simp] theorem run_pure (value : α) (state : σ) :
    run apply (pure value : Program Op Answer ε α) state = (.ok value, state) := rfl

@[simp] theorem run_throw (error : ε) (state : σ) :
    run apply (throw error : Program Op Answer ε α) state = (.error error, state) := rfl

@[simp] theorem run_perform (op : Op) (state : σ) :
    run apply (perform op : Program Op Answer ε (Answer op)) state =
      (.ok (apply op state).1, (apply op state).2) := rfl

@[simp] theorem after_zero (program : Program Op Answer ε α) (state : σ) :
    after apply 0 program state = state := rfl

@[simp] theorem after_pure (count : Nat) (value : α) (state : σ) :
    after apply count (pure value : Program Op Answer ε α) state = state := by
  cases count <;> rfl

theorem run_bind (program : Program Op Answer ε α) (rest : α → Program Op Answer ε β)
    (state : σ) :
    run apply (program >>= rest) state =
      match run apply program state with
      | (.ok value, after) => run apply (rest value) after
      | (.error error, after) => (.error error, after) := by
  induction program generalizing state with
  | done outcome => cases outcome <;> rfl
  | call op next inductionHypothesis => exact inductionHypothesis _ _

theorem run_tryCatch (program : Program Op Answer ε α) (handler : ε → Program Op Answer ε α)
    (state : σ) :
    run apply (tryCatch program handler) state =
      match run apply program state with
      | (.ok value, after) => (.ok value, after)
      | (.error error, after) => run apply (handler error) after := by
  induction program generalizing state with
  | done outcome => cases outcome <;> rfl
  | call op next inductionHypothesis => exact inductionHypothesis _ _

/-- A loop whose body returns, whatever the count it carries, takes the state
through the items. -/
theorem run_foldlM {γ : Type} {step : β → γ → Program Op Answer ε β} {next : σ → γ → σ}
    (each : ∀ carried item state, ∃ result,
      run apply (step carried item) state = (.ok result, next state item))
    (items : List γ) (carried : β) (state : σ) :
    (run apply (items.foldlM step carried) state).2 = items.foldl next state := by
  induction items generalizing carried state with
  | nil => rfl
  | cons item rest inductionHypothesis =>
      obtain ⟨result, returned⟩ := each carried item state
      rw [List.foldlM_cons, run_bind, returned]
      exact inductionHypothesis result _

theorem execute_call (plan : Op → Fate ε) (op : Op)
    (next : Except ε (Answer op) → Program Op Answer ε α) (state : σ) :
    execute apply plan (.call op next) state =
      match plan op with
      | .completes => execute apply plan (next (.ok (apply op state).1)) (apply op state).2
      | .raises error => execute apply plan (next (.error error)) state
      | .stops => (none, state) := by
  cases fate : plan op <;> simp only [execute, fate]

@[simp] theorem execute_pure (plan : Op → Fate ε) (value : α) (state : σ) :
    execute apply plan (pure value : Program Op Answer ε α) state = (some (.ok value), state) :=
  rfl

@[simp] theorem execute_throw (plan : Op → Fate ε) (error : ε) (state : σ) :
    execute apply plan (throw error : Program Op Answer ε α) state =
      (some (.error error), state) := rfl

theorem execute_perform (plan : Op → Fate ε) (op : Op) (state : σ) :
    execute apply plan (perform op : Program Op Answer ε (Answer op)) state =
      match plan op with
      | .completes => (some (.ok (apply op state).1), (apply op state).2)
      | .raises error => (some (.error error), state)
      | .stops => (none, state) := by
  unfold perform
  rw [execute_call]
  cases plan op <;> rfl

theorem execute_bind (plan : Op → Fate ε) (program : Program Op Answer ε α)
    (rest : α → Program Op Answer ε β) (state : σ) :
    execute apply plan (program >>= rest) state =
      match execute apply plan program state with
      | (some (.ok value), after) => execute apply plan (rest value) after
      | (some (.error error), after) => (some (.error error), after)
      | (none, after) => (none, after) := by
  induction program generalizing state with
  | done outcome => cases outcome <;> rfl
  | call op next inductionHypothesis =>
      change execute apply plan (.call op fun answer => (next answer).bind rest) state = _
      rw [execute_call, execute_call]
      cases plan op with
      | completes => exact inductionHypothesis _ _
      | raises error => exact inductionHypothesis _ _
      | stops => rfl

theorem execute_tryCatch (plan : Op → Fate ε) (program : Program Op Answer ε α)
    (handler : ε → Program Op Answer ε α) (state : σ) :
    execute apply plan (tryCatch program handler) state =
      match execute apply plan program state with
      | (some (.ok value), after) => (some (.ok value), after)
      | (some (.error error), after) => execute apply plan (handler error) after
      | (none, after) => (none, after) := by
  induction program generalizing state with
  | done outcome => cases outcome <;> rfl
  | call op next inductionHypothesis =>
      change execute apply plan (.call op fun answer => (next answer).handle handler) state = _
      rw [execute_call, execute_call]
      cases plan op with
      | completes => exact inductionHypothesis _ _
      | raises error => exact inductionHypothesis _ _
      | stops => rfl

end Execution

/-! ### Operations that may raise -/

section Attempts

variable {σ : Type} (attempt : (op : Op) → σ → Except ε (Answer op) × σ)

/-- Run where the state decides whether an operation answers or raises. -/
def runAttempts : Program Op Answer ε α → σ → Except ε α × σ
  | .done outcome, state => (outcome, state)
  | .call op next, state => runAttempts (next (attempt op state).1) (attempt op state).2

@[simp] theorem runAttempts_pure (value : α) (state : σ) :
    runAttempts attempt (pure value : Program Op Answer ε α) state = (.ok value, state) := rfl

@[simp] theorem runAttempts_throw (error : ε) (state : σ) :
    runAttempts attempt (throw error : Program Op Answer ε α) state = (.error error, state) := rfl

@[simp] theorem runAttempts_perform (op : Op) (state : σ) :
    runAttempts attempt (perform op : Program Op Answer ε (Answer op)) state =
      attempt op state := rfl

theorem runAttempts_bind (program : Program Op Answer ε α) (rest : α → Program Op Answer ε β)
    (state : σ) :
    runAttempts attempt (program >>= rest) state =
      match runAttempts attempt program state with
      | (.ok value, after) => runAttempts attempt (rest value) after
      | (.error error, after) => (.error error, after) := by
  induction program generalizing state with
  | done outcome => cases outcome <;> rfl
  | call op next inductionHypothesis => exact inductionHypothesis _ _

theorem runAttempts_bind_ok {program : Program Op Answer ε α} {rest : α → Program Op Answer ε β}
    {state after : σ} {value : β}
    (done : runAttempts attempt (program >>= rest) state = (.ok value, after)) :
    ∃ first middle, runAttempts attempt program state = (.ok first, middle) ∧
      runAttempts attempt (rest first) middle = (.ok value, after) := by
  rw [runAttempts_bind] at done
  generalize runAttempts attempt program state = result at done ⊢
  obtain ⟨outcome, middle⟩ := result
  cases outcome with
  | error error => cases done
  | ok first => exact ⟨first, middle, rfl, done⟩

theorem runAttempts_tryCatch (program : Program Op Answer ε α)
    (handler : ε → Program Op Answer ε α) (state : σ) :
    runAttempts attempt (tryCatch program handler) state =
      match runAttempts attempt program state with
      | (.ok value, after) => (.ok value, after)
      | (.error error, after) => runAttempts attempt (handler error) after := by
  induction program generalizing state with
  | done outcome => cases outcome <;> rfl
  | call op next inductionHypothesis => exact inductionHypothesis _ _

theorem runAttempts_foldlM {γ : Type} {step : β → γ → Program Op Answer ε β} {next : σ → γ → σ}
    (each : ∀ carried item state, ∃ result,
      runAttempts attempt (step carried item) state = (.ok result, next state item))
    (items : List γ) (carried : β) (state : σ) :
    (runAttempts attempt (items.foldlM step carried) state).2 = items.foldl next state := by
  induction items generalizing carried state with
  | nil => rfl
  | cons item rest inductionHypothesis =>
      obtain ⟨result, returned⟩ := each carried item state
      rw [List.foldlM_cons, runAttempts_bind, returned]
      exact inductionHypothesis result _

end Attempts

/-! ### The operations of a program -/

section Operations

variable {σ : Type} (apply : (op : Op) → σ → Answer op × σ)

/-- Every operation the program can issue satisfies `P`, whatever states its
operations meet and whichever of them raise. -/
def All (P : Op → Prop) : Program Op Answer ε α → Prop
  | .done _ => True
  | .call op next =>
      P op ∧ (∀ error, (next (.error error)).All P) ∧
        ∀ state, (next (.ok (apply op state).1)).All P

variable {apply} {P : Op → Prop} {program : Program Op Answer ε α}

@[simp] theorem all_pure (value : α) : (pure value : Program Op Answer ε α).All apply P := trivial

@[simp] theorem all_throw (error : ε) : (throw error : Program Op Answer ε α).All apply P := trivial

theorem All.bind {rest : α → Program Op Answer ε β} (first : program.All apply P)
    (later : ∀ value, (rest value).All apply P) : (program >>= rest).All apply P := by
  induction program with
  | done outcome =>
      cases outcome with
      | ok value => exact later value
      | error error => trivial
  | call op next inductionHypothesis =>
      exact ⟨first.1, fun error => inductionHypothesis _ (first.2.1 error),
        fun state => inductionHypothesis _ (first.2.2 state)⟩

theorem All.tryCatch {handler : ε → Program Op Answer ε α} (first : program.All apply P)
    (later : ∀ error, (handler error).All apply P) :
    (MonadExcept.tryCatch program handler).All apply P := by
  induction program with
  | done outcome =>
      cases outcome with
      | ok value => trivial
      | error error => exact later error
  | call op next inductionHypothesis =>
      exact ⟨first.1, fun error => inductionHypothesis _ (first.2.1 error),
        fun state => inductionHypothesis _ (first.2.2 state)⟩

theorem All.perform {op : Op} (holds : P op) :
    (perform op : Program Op Answer ε (Answer op)).All apply P :=
  ⟨holds, fun _ => trivial, fun _ => trivial⟩

/-- What follows an operation may rely on the answer being one of some state. -/
theorem All.perform_bind {op : Op} {rest : Answer op → Program Op Answer ε β} (holds : P op)
    (later : ∀ state, (rest (apply op state).1).All apply P) :
    ((Program.perform op : Program Op Answer ε (Answer op)) >>= rest).All apply P :=
  ⟨holds, fun _ => trivial, later⟩

theorem All.mono {Q : Op → Prop} (weaken : ∀ op, P op → Q op) (all : program.All apply P) :
    program.All apply Q := by
  induction program with
  | done outcome => trivial
  | call op next inductionHypothesis =>
      exact ⟨weaken op all.1, fun error => inductionHypothesis _ (all.2.1 error),
        fun state => inductionHypothesis _ (all.2.2 state)⟩

/-- What every such operation keeps, the whole run keeps. -/
theorem All.run_keeps {Inv : σ → Prop}
    (keeps : ∀ op state, P op → Inv state → Inv (apply op state).2) (all : program.All apply P)
    {state : σ} (initial : Inv state) : Inv (run apply program state).2 := by
  induction program generalizing state with
  | done outcome => exact initial
  | call op next inductionHypothesis =>
      exact inductionHypothesis _ (all.2.2 state) (keeps op state all.1 initial)

/-- The same where operations fail and the program may be stopped. -/
theorem All.execute_keeps {Inv : σ → Prop}
    (keeps : ∀ op state, P op → Inv state → Inv (apply op state).2) (all : program.All apply P)
    (plan : Op → Fate ε) {state : σ} (initial : Inv state) :
    Inv (execute apply plan program state).2 := by
  induction program generalizing state with
  | done outcome => exact initial
  | call op next inductionHypothesis =>
      unfold execute
      cases plan op with
      | completes => exact inductionHypothesis _ (all.2.2 state) (keeps op state all.1 initial)
      | raises error => exact inductionHypothesis _ (all.2.1 error) initial
      | stops => exact initial

/-- The same where operations may raise, if their answers are among those the
operations give. -/
theorem All.runAttempts_keeps {τ : Type} {attempt : (op : Op) → τ → Except ε (Answer op) × τ}
    (answers : ∀ op state answer, (attempt op state).1 = .ok answer →
      ∃ other, (apply op other).1 = answer) {Inv : τ → Prop}
    (keeps : ∀ op state, P op → Inv state → Inv (attempt op state).2) (all : program.All apply P)
    {state : τ} (initial : Inv state) : Inv (runAttempts attempt program state).2 := by
  induction program generalizing state with
  | done outcome => exact initial
  | call op next inductionHypothesis =>
      have after := keeps op state all.1 initial
      unfold runAttempts
      cases outcome : (attempt op state).1 with
      | error error => exact inductionHypothesis _ (all.2.1 error) after
      | ok answer =>
          obtain ⟨other, rfl⟩ := answers op state answer outcome
          exact inductionHypothesis _ (all.2.2 other) after

end Operations

/-! ### Programs among others -/

section Interference

variable {σ : Type} (apply : (op : Op) → σ → Answer op × σ) (Inv : σ → Prop)
  (Rely : σ → σ → Prop) (Allowed : σ → Op → Prop)

/-- Each allowed operation of the program, performed after others have changed
the state as they may, keeps the invariant and changes the state as it may; and
where the program ends, `Ends` holds. -/
def Ensures (Ends : Except ε α → σ → Prop) : Program Op Answer ε α → σ → Prop
  | .done outcome, state => Ends outcome state
  | .call op next, state =>
      ∀ later, Rely state later → Inv later → Allowed later op →
        Inv (apply op later).2 ∧ Rely later (apply op later).2 ∧
          (next (.ok (apply op later).1)).Ensures Ends (apply op later).2

variable {apply Inv Rely Allowed} {program : Program Op Answer ε α} {state : σ}
  {Ends : Except ε α → σ → Prop}

theorem Ensures.mono {Weaker : Except ε α → σ → Prop}
    (weaken : ∀ outcome state, Ends outcome state → Weaker outcome state)
    (ensures : program.Ensures apply Inv Rely Allowed Ends state) :
    program.Ensures apply Inv Rely Allowed Weaker state := by
  induction program generalizing state with
  | done outcome => exact weaken outcome state ensures
  | call op next inductionHypothesis =>
      intro later between invariant allowed
      obtain ⟨kept, changed, rest⟩ := ensures later between invariant allowed
      exact ⟨kept, changed, inductionHypothesis _ rest⟩

theorem Ensures.bind {rest : α → Program Op Answer ε β} {Last : Except ε β → σ → Prop}
    (first : program.Ensures apply Inv Rely Allowed Ends state)
    (later : ∀ value state, Ends (.ok value) state →
      (rest value).Ensures apply Inv Rely Allowed Last state)
    (raised : ∀ error state, Ends (.error error) state → Last (.error error) state) :
    (program >>= rest).Ensures apply Inv Rely Allowed Last state := by
  induction program generalizing state with
  | done outcome =>
      cases outcome with
      | ok value => exact later value state first
      | error error => exact raised error state first
  | call op next inductionHypothesis =>
      intro after between invariant allowed
      obtain ⟨kept, changed, follows⟩ := first after between invariant allowed
      exact ⟨kept, changed, inductionHypothesis _ follows⟩

theorem Ensures.tryCatch {handler : ε → Program Op Answer ε α} {Last : Except ε α → σ → Prop}
    (first : program.Ensures apply Inv Rely Allowed Ends state)
    (returned : ∀ value state, Ends (.ok value) state → Last (.ok value) state)
    (later : ∀ error state, Ends (.error error) state →
      (handler error).Ensures apply Inv Rely Allowed Last state) :
    (MonadExcept.tryCatch program handler).Ensures apply Inv Rely Allowed Last state := by
  induction program generalizing state with
  | done outcome =>
      cases outcome with
      | ok value => exact returned value state first
      | error error => exact later error state first
  | call op next inductionHypothesis =>
      intro after between invariant allowed
      obtain ⟨kept, changed, follows⟩ := first after between invariant allowed
      exact ⟨kept, changed, inductionHypothesis _ follows⟩

/-- A handler that is never reached. -/
theorem Ensures.tryCatch_of_never {handler : ε → Program Op Answer ε α}
    (first : program.Ensures apply Inv Rely Allowed Ends state)
    (never : ∀ error state, ¬ Ends (.error error) state) :
    (MonadExcept.tryCatch program handler).Ensures apply Inv Rely Allowed Ends state :=
  first.tryCatch (fun _ _ ends => ends) fun error state ends => absurd ends (never error state)

theorem Ensures.perform {op : Op} {Last : Except ε (Answer op) → σ → Prop}
    (steps : ∀ later, Rely state later → Inv later → Allowed later op →
      Inv (apply op later).2 ∧ Rely later (apply op later).2 ∧
        Last (.ok (apply op later).1) (apply op later).2) :
    (perform op : Program Op Answer ε (Answer op)).Ensures apply Inv Rely Allowed Last state :=
  steps

/-- What follows an operation is judged on the state the operation leaves. -/
theorem Ensures.perform_bind {op : Op} {rest : Answer op → Program Op Answer ε β}
    {Last : Except ε β → σ → Prop}
    (steps : ∀ later, Rely state later → Inv later → Allowed later op →
      Inv (apply op later).2 ∧ Rely later (apply op later).2 ∧
        (rest (apply op later).1).Ensures apply Inv Rely Allowed Last (apply op later).2) :
    ((Program.perform op : Program Op Answer ε (Answer op)) >>= rest).Ensures apply Inv Rely
      Allowed Last state :=
  steps

/-- What a program ensures it still ensures after others have taken steps. -/
theorem Ensures.after (compose : ∀ first second third, Rely first second → Rely second third →
      Rely first third)
    (stable : ∀ outcome first second, Rely first second → Ends outcome first → Ends outcome second)
    {later : σ} (between : Rely state later)
    (ensures : program.Ensures apply Inv Rely Allowed Ends state) :
    program.Ensures apply Inv Rely Allowed Ends later := by
  cases program with
  | done outcome => exact stable outcome state later between ensures
  | call op next =>
      intro after more invariant allowed
      exact ensures after (compose _ _ _ between more) invariant allowed

/-- Where the program ends, the state is one that steps lead to. -/
theorem Ensures.reached (compose : ∀ first second third, Rely first second → Rely second third →
      Rely first third) (start : Rely state state)
    (ensures : program.Ensures apply Inv Rely Allowed Ends state) :
    program.Ensures apply Inv Rely Allowed
      (fun outcome later => Ends outcome later ∧ Rely state later) state := by
  suffices general : ∀ current, Rely state current →
      program.Ensures apply Inv Rely Allowed Ends current →
        program.Ensures apply Inv Rely Allowed
          (fun outcome later => Ends outcome later ∧ Rely state later) current from
    general state start ensures
  clear ensures
  induction program with
  | done outcome => exact fun current reached ends => ⟨ends, reached⟩
  | call op next inductionHypothesis =>
      intro current reached ensures later between invariant allowed
      obtain ⟨kept, changed, rest⟩ := ensures later between invariant allowed
      have onward := compose _ _ _ (compose _ _ _ reached between) changed
      exact ⟨kept, changed, inductionHypothesis _ _ onward rest⟩

/-- A program whose operations all keep the invariant on their own. -/
theorem All.ensures {P : Op → Prop} (all : program.All apply P)
    (compose : ∀ first second third, Rely first second → Rely second third → Rely first third)
    (keeps : ∀ op state, P op → Inv state → Allowed state op →
      Inv (apply op state).2 ∧ Rely state (apply op state).2)
    (ends : ∀ outcome later, Rely state later → Ends outcome later) (start : Rely state state) :
    program.Ensures apply Inv Rely Allowed Ends state := by
  suffices general : ∀ current, Rely state current →
      program.Ensures apply Inv Rely Allowed Ends current from general state start
  induction program with
  | done outcome => exact fun current reached => ends outcome current reached
  | call op next inductionHypothesis =>
      intro current reached later between invariant allowed
      obtain ⟨kept, changed⟩ := keeps op later all.1 invariant allowed
      have onward := compose _ _ _ (compose _ _ _ reached between) changed
      exact ⟨kept, changed, inductionHypothesis _ (all.2.2 later) _ onward⟩

end Interference

end Program

/-! ### Interleaving -/

section Interleaving

variable {Op : Type} {Answer : Op → Type} {ε α σ ι : Type}

/-- A request and what is left of its program. -/
structure Thread (Op : Type) (Answer : Op → Type) (ε α ι : Type) where
  request : ι
  program : Program Op Answer ε α

/-- The shared state and the requests under way. -/
structure Pool (Op : Type) (Answer : Op → Type) (ε α σ ι : Type) where
  state : σ
  threads : List (Thread Op Answer ε α ι) := []

inductive PoolEvent (ε ι : Type)
  | start (request : ι)
  /-- The next operation of a thread completes, or raises the given error. An operation
  that raises is one that was not performed: a write whose answer alone was lost is not
  among these (see `PutFate`). -/
  | advance (thread : Nat) (raised : Option ε)

namespace Pool

variable (apply : (op : Op) → σ → Answer op × σ) (programOf : ι → Program Op Answer ε α)

/-- The request and operation that an event performs. -/
def next? (pool : Pool Op Answer ε α σ ι) : PoolEvent ε ι → Option (ι × Op × Option ε)
  | .start _ => none
  | .advance thread raised =>
      match pool.threads[thread]? with
      | some ⟨request, .call op _⟩ => some (request, op, raised)
      | _ => none

def step (pool : Pool Op Answer ε α σ ι) : PoolEvent ε ι → Pool Op Answer ε α σ ι
  | .start request =>
      { pool with threads := pool.threads ++ [⟨request, programOf request⟩] }
  | .advance thread raised =>
      match pool.threads[thread]? with
      | some ⟨request, .call op next⟩ =>
          match raised with
          | none =>
              { state := (apply op pool.state).2
                threads := pool.threads.set thread ⟨request, next (.ok (apply op pool.state).1)⟩ }
          | some error =>
              { pool with threads := pool.threads.set thread ⟨request, next (.error error)⟩ }
      | _ => pool

/-- Some thread has run to its end. -/
def Returned (among : ι → Bool) (pool : Pool Op Answer ε α σ ι) : Prop :=
  ∃ thread ∈ pool.threads, among thread.request = true ∧ thread.program.returned = true

instance (among : ι → Bool) (pool : Pool Op Answer ε α σ ι) : Decidable (pool.Returned among) :=
  inferInstanceAs (Decidable (∃ thread ∈ pool.threads, _))

/-- What is left of each program is bounded by what its request may issue. -/
def Bounded (P : ι → Op → Prop) (pool : Pool Op Answer ε α σ ι) : Prop :=
  ∀ thread ∈ pool.threads, thread.program.All apply (P thread.request)

/-- The invariant holds, and what is left of each program ensures its part. -/
def Ensured (Inv : σ → Prop) (Rely : σ → σ → Prop) (Allowed : ι → σ → Op → Prop)
    (Ends : ι → Except ε α → σ → Prop) (pool : Pool Op Answer ε α σ ι) : Prop :=
  Inv pool.state ∧ ∀ thread ∈ pool.threads, thread.program.Ensures apply Inv Rely
    (Allowed thread.request) (Ends thread.request) pool.state

variable {apply programOf} {P : ι → Op → Prop}

theorem Bounded.step {pool : Pool Op Answer ε α σ ι} (bounded : pool.Bounded apply P)
    {event : PoolEvent ε ι}
    (starts : ∀ request, event = .start request → (programOf request).All apply (P request)) :
    (pool.step apply programOf event).Bounded apply P := by
  cases event with
  | start request =>
      intro thread member
      rcases List.mem_append.mp member with old | new
      · exact bounded thread old
      · obtain rfl := List.mem_singleton.mp new
        exact starts request rfl
  | advance index raised =>
      unfold Pool.step
      dsimp only
      split
      next request op next found =>
        have all := bounded _ (List.mem_of_getElem? found)
        cases raised with
        | none =>
            intro thread member
            rcases List.mem_or_eq_of_mem_set member with old | rfl
            · exact bounded thread old
            · exact all.2.2 pool.state
        | some error =>
            intro thread member
            rcases List.mem_or_eq_of_mem_set member with old | rfl
            · exact bounded thread old
            · exact all.2.1 error
      next => exact bounded

/-- The operation an event performs is one its request may issue. -/
theorem Bounded.next {pool : Pool Op Answer ε α σ ι} (bounded : pool.Bounded apply P)
    {event : PoolEvent ε ι} {request : ι} {op : Op} {raised : Option ε}
    (performs : pool.next? event = some (request, op, raised)) : P request op := by
  cases event with
  | start request => cases performs
  | advance index raised =>
      unfold Pool.next? at performs
      dsimp only at performs
      split at performs
      next found =>
        cases performs
        exact (bounded _ (List.mem_of_getElem? found)).1
      next => cases performs

/-- The rule for pools: an undisturbed step whose operation is allowed. -/
theorem Ensured.step {Inv : σ → Prop} {Rely : σ → σ → Prop} {Allowed : ι → σ → Op → Prop}
    {Ends : ι → Except ε α → σ → Prop}
    (compose : ∀ first second third, Rely first second → Rely second third → Rely first third)
    (reflexive : ∀ state, Rely state state)
    (stable : ∀ request outcome first second, Rely first second → Ends request outcome first →
      Ends request outcome second)
    {pool : Pool Op Answer ε α σ ι} (ensured : pool.Ensured apply Inv Rely Allowed Ends)
    {event : PoolEvent ε ι}
    (starts : ∀ request, event = .start request → (programOf request).Ensures apply Inv Rely
      (Allowed request) (Ends request) pool.state)
    (allowed : ∀ request op raised, pool.next? event = some (request, op, raised) →
      raised = none ∧ Allowed request pool.state op) :
    (pool.step apply programOf event).Ensured apply Inv Rely Allowed Ends := by
  obtain ⟨invariant, threads⟩ := ensured
  cases event with
  | start request =>
      refine ⟨invariant, fun thread member => ?_⟩
      rcases List.mem_append.mp member with old | new
      · exact threads thread old
      · obtain rfl := List.mem_singleton.mp new
        exact starts request rfl
  | advance index raised =>
      unfold Pool.next? at allowed
      unfold Pool.step
      dsimp only at allowed ⊢
      split
      next request op next found =>
        rw [found] at allowed
        obtain ⟨rfl, permitted⟩ := allowed request op raised rfl
        obtain ⟨kept, changed, rest⟩ :=
          threads _ (List.mem_of_getElem? found) pool.state (reflexive _) invariant permitted
        refine ⟨kept, fun thread member => ?_⟩
        rcases List.mem_or_eq_of_mem_set member with old | rfl
        · exact (threads thread old).after compose (stable thread.request) changed
        · exact rest
      next => exact ⟨invariant, threads⟩

/-- An event changes the state as the operation it performs does. -/
theorem state_step (pool : Pool Op Answer ε α σ ι) (event : PoolEvent ε ι) :
    (pool.step apply programOf event).state =
      match pool.next? event with
      | some (_, op, none) => (apply op pool.state).2
      | _ => pool.state := by
  cases event with
  | start request => rfl
  | advance index raised =>
      unfold Pool.step Pool.next?
      dsimp only
      split
      next => cases raised <;> rfl
      next => rfl

end Pool

end Interleaving

end TradingStrands.Foundation
