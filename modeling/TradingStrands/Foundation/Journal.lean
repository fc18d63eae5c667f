import TradingStrands.Foundation.Programs

/-!
Owns programs that call services and guard against them: a service answers or
raises as it likes, seeing all calls so far, and the calls are kept in a journal.
`Completes` is the rule for what such a program guarantees whatever the services
do: that it returns, and what its calls and its result then satisfy.

Does not own: any particular service.
-/

namespace TradingStrands.Foundation

/-- How calls are answered, given the calls before. -/
abbrev Replies (Op : Type) (Answer : Op → Type) (ε : Type) : Type :=
  List Op → (op : Op) → Except ε (Answer op)

namespace Program

variable {Op : Type} {Answer : Op → Type} {ε α β : Type}

/-- Let the service answer and write the call down. -/
def journaled (service : Replies Op Answer ε) (op : Op) (calls : List Op) :
    Except ε (Answer op) × List Op :=
  (service calls op, calls ++ [op])

/-- One call inside a `try` whose handler catches every exception. -/
def guarded (op : Op) (answered : Answer op → α) (raised : ε → α) : Program Op Answer ε α :=
  tryCatch (do
    let answer ← perform op
    return answered answer) fun error => return raised error

/-- Whatever the calls are answered and whichever of them raise, the program
returns, and its calls and its result satisfy `post`. -/
def Completes : Program Op Answer ε α → (List Op → α → Prop) → Prop
  | .done (.ok value), post => post [] value
  | .done (.error _), _ => False
  | .call op next, post =>
      ∀ answer, (next answer).Completes fun calls value => post (op :: calls) value

theorem Completes.pure {value : α} {post : List Op → α → Prop} (holds : post [] value) :
    (pure value : Program Op Answer ε α).Completes post := holds

theorem Completes.mono {program : Program Op Answer ε α} {post weaker : List Op → α → Prop}
    (weaken : ∀ calls value, post calls value → weaker calls value)
    (completes : program.Completes post) : program.Completes weaker := by
  induction program generalizing post weaker with
  | done outcome =>
      cases outcome with
      | error error => exact completes
      | ok value => exact weaken [] value completes
  | call op next inductionHypothesis =>
      intro answer
      exact inductionHypothesis answer (fun calls => weaken (op :: calls)) (completes answer)

theorem Completes.bind {program : Program Op Answer ε α} {rest : α → Program Op Answer ε β}
    {middle : List Op → α → Prop} {post : List Op → β → Prop} (first : program.Completes middle)
    (later : ∀ calls value, middle calls value →
      (rest value).Completes fun more result => post (calls ++ more) result) :
    (program >>= rest).Completes post := by
  induction program generalizing middle post with
  | done outcome =>
      cases outcome with
      | error error => exact first.elim
      | ok value => exact later [] value first
  | call op next inductionHypothesis =>
      intro answer
      exact inductionHypothesis answer (first answer) fun calls => later (op :: calls)

/-- A guarded call is one call, answered or not. -/
theorem Completes.guarded {op : Op} {answered : Answer op → α} {raised : ε → α}
    {post : List Op → α → Prop} (afterAnswer : ∀ answer, post [op] (answered answer))
    (afterError : ∀ error, post [op] (raised error)) :
    (guarded op answered raised : Program Op Answer ε α).Completes post := by
  intro answer
  cases answer with
  | error error => exact afterError error
  | ok answer => exact afterAnswer answer

/-- The guarantee holds however operations are attempted. The state afterwards is
the one that the calls leave. -/
theorem Completes.runAttempts {σ : Type} {program : Program Op Answer ε α}
    {post : List Op → α → Prop} (completes : program.Completes post)
    (attempt : (op : Op) → σ → Except ε (Answer op) × σ) (state : σ) :
    ∃ calls value, program.runAttempts attempt state =
        (.ok value, calls.foldl (fun state op => (attempt op state).2) state) ∧
      post calls value := by
  induction program generalizing post state with
  | done outcome =>
      cases outcome with
      | error error => exact completes.elim
      | ok value => exact ⟨[], value, rfl, completes⟩
  | call op next inductionHypothesis =>
      obtain ⟨calls, value, ran, holds⟩ :=
        inductionHypothesis (attempt op state).1 (completes _) (attempt op state).2
      exact ⟨op :: calls, value, ran, holds⟩

theorem foldl_journaled (service : Replies Op Answer ε) (before calls : List Op) :
    calls.foldl (fun journal op => (journaled service op journal).2) before = before ++ calls := by
  induction calls generalizing before with
  | nil => exact (List.append_nil _).symm
  | cons op rest inductionHypothesis =>
      rw [List.foldl_cons, inductionHypothesis, List.append_cons]
      rfl

/-- The guarantee holds for every service. -/
theorem Completes.journal {program : Program Op Answer ε α} {post : List Op → α → Prop}
    (completes : program.Completes post) (service : Replies Op Answer ε) :
    ∃ calls value, program.runAttempts (journaled service) [] = (.ok value, calls) ∧
      post calls value := by
  obtain ⟨calls, value, ran, holds⟩ := completes.runAttempts (journaled service) []
  rw [foldl_journaled, List.nil_append] at ran
  exact ⟨calls, value, ran, holds⟩

end Program

end TradingStrands.Foundation
