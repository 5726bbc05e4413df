import Clausal.Execution.Executor
import Clausal.Proofs.Steps
/-!
# What executors run

An executor is asked for the rows of a statement, for a count or for a page, and a run that comes
down to one such request `Asks` for it.

An executor that keeps a journal notes each statement and otherwise goes on as before. Where it has
ways of its own to count and to fetch a page, the journal holds what it is handed: both statements
of a page. Where it has none, the journal holds what it runs, and the second statement of a page is
in it only if the first has given a number.
-/

namespace Clausal

variable {σ α β : Type}

/-- What is asked of an executor: the rows of a statement, the number that one counts, or a page. -/
inductive Request where
  | rows (statement : Statement)
  | count (counting : Statement)
  | page (counting fetching : Statement)

/-- The statements of a request, in the order in which they are to be run. -/
def Request.statements : Request → List Statement
  | rows statement => [statement]
  | count counting => [counting]
  | page counting fetching => [counting, fetching]

/-- What a request leaves of the state of an executor. -/
def Executor.serve (executor : Executor σ) (state : σ) : Request → σ
  | .rows statement => (executor.query statement state).2
  | .count counting => (executor.count counting state).2
  | .page counting fetching => (executor.page counting fetching state).2

/-- Whether an executor answers a request. -/
def Executor.answers (executor : Executor σ) (state : σ) : Request → Bool
  | .rows statement => (executor.query statement state).1.isOk
  | .count counting => (executor.count counting state).1.isOk
  | .page counting fetching => (executor.page counting fetching state).1.isOk

/-- What a run asks of an executor. Where that cannot be said the run fails with the error and does
nothing. Otherwise it leaves what the request leaves, and succeeds only where it is answered. -/
inductive Asks {ε : Type} (executor : Executor σ) (run : σ → Except ε α × σ) :
    Except ε Request → Prop
  | refused {e : ε} : (∀ state, run state = (.error e, state)) → Asks executor run (.error e)
  | served {request : Request} : (∀ state, (run state).2 = executor.serve state request) →
    (∀ state, (run state).1.isOk = true → executor.answers state request = true) →
    Asks executor run (.ok request)

section

variable {ε ε' : Type} {executor : Executor σ} {run : σ → Except ε α × σ} {asked : Except ε Request}

/-- What is made of the answer does not matter, even if that fails. -/
theorem Asks.bind (asks : Asks executor run asked) (f : α → Except ε β) :
    Asks executor (fun state => ((run state).1.bind f, (run state).2)) asked := by
  cases asks with
  | refused ran => exact .refused fun state => by rw [ran]; rfl
  | served left answered =>
    refine .served left fun state succeeds => answered state ?_
    revert succeeds
    dsimp only
    rcases (run state).1 with e | a
    · exact id
    · exact fun _ => rfl

theorem Asks.map (asks : Asks executor run asked) (f : α → β) :
    Asks executor (fun state => ((run state).1.map f, (run state).2)) asked :=
  asks.bind fun a => .ok (f a)

/-- What is made of an error does not matter either, if it is made of any error. -/
theorem Asks.mapError (asks : Asks executor run asked) (f : ε → ε') :
    Asks executor (fun state => ((run state).1.mapError f, (run state).2)) (asked.mapError f) := by
  cases asks with
  | refused ran => exact .refused fun state => by rw [ran]; rfl
  | served left answered =>
    refine .served left fun state succeeds => answered state ?_
    revert succeeds
    dsimp only
    rcases (run state).1 with e | a
    · exact id
    · exact id

end

/-! ## Journals -/

/-- A run that notes statements. -/
def Run.noting (statements : List Statement) (run : Run σ α) : Run (σ × List Statement) α :=
  fun s => ((run s.1).1, ((run s.1).2, s.2 ++ statements))

theorem Run.noting_of_eq {run : Run σ α} {state state' : σ} {outcome : Except Error α}
    (ran : run state = (outcome, state')) (statements noted : List Statement) :
    run.noting statements (state, noted) = (outcome, (state', noted ++ statements)) := by
  rw [noting, ran]

namespace Executor

/-- An executor with a journal of what it is handed. -/
def noting (executor : Executor σ) : Executor (σ × List Statement) where
  query statement := (executor.query statement).noting [statement]
  execute statement := (executor.execute statement).noting [statement]
  count counting := (executor.count counting).noting [counting]
  page counting fetching := (executor.page counting fetching).noting [counting, fetching]

/-- An executor with no way of its own to count or to fetch a page, with a journal of what it
runs. -/
def plain (query : Statement → Run σ QueryResult) (execute : Statement → Run σ WriteResult) :
    Executor (σ × List Statement) where
  query statement := (query statement).noting [statement]
  execute statement := (execute statement).noting [statement]

/-- The executors with a journal. -/
inductive Journals : Executor (σ × List Statement) → Prop
  | noting (executor : Executor σ) : Journals executor.noting
  | plain (query : Statement → Run σ QueryResult) (execute : Statement → Run σ WriteResult) :
    Journals (plain query execute)

end Executor

/-! ## Counts and pages without a way of their own -/

section

variable (query : Statement → Run σ QueryResult) (execute : Statement → Run σ WriteResult)

/-- Reading a count runs its statement. -/
theorem Run.count_apply (counting : Statement) (state : σ) :
    Run.count query counting state =
      match query counting state with
      | (.ok reply, state') => (reply.count, state')
      | (.error e, state') => (.error e, state') := by
  rw [Run.count, bind_apply]
  rcases query counting state with ⟨outcome, state'⟩
  cases outcome with
  | error e => rfl
  | ok reply => cases counted : reply.count <;> rfl

/-- The count is run first. What is fetched is run only where the count has given a number. -/
theorem Run.page_apply (count : Statement → Run σ UInt64) (counting fetching : Statement)
    (state : σ) : Run.page count query counting fetching state =
      match count counting state with
      | (.error e, state') => (.error e, state')
      | (.ok total, state') =>
        ((query fetching state').1.map fun reply => (total, reply), (query fetching state').2) := by
  rw [Run.page, bind_apply]
  rcases count counting state with ⟨e | total, state'⟩
  · rfl
  · dsimp only
    rw [bind_apply]
    rcases query fetching state' with ⟨e | reply, state''⟩ <;> rfl

/-- Whatever the reply to a count is, the statement is noted. -/
theorem Executor.count_plain (counting : Statement) (state : σ) (noted : List Statement) :
    (plain query execute).count counting (state, noted) =
      ((Run.count query counting state).1,
        ((Run.count query counting state).2, noted ++ [counting])) := by
  change Run.count (fun statement => (query statement).noting [statement]) counting _ = _
  rw [Run.count_apply, Run.count_apply]
  rcases counted : query counting state with ⟨outcome, state'⟩
  rw [Run.noting_of_eq counted]
  cases outcome <;> rfl

/-- Each of the two is noted when it is run. -/
theorem Executor.page_plain (counting fetching : Statement) (state : σ) (noted : List Statement) :
    (plain query execute).page counting fetching (state, noted) =
      match Run.count query counting state with
      | (.error e, state') => (.error e, (state', noted ++ [counting]))
      | (.ok total, state') =>
        ((query fetching state').1.map fun reply => (total, reply),
          ((query fetching state').2, noted ++ [counting, fetching])) := by
  change Run.page (plain query execute).count
    (fun statement => (query statement).noting [statement]) counting fetching _ = _
  rw [Run.page_apply, count_plain]
  rcases Run.count query counting state with ⟨e | total, state'⟩
  · rfl
  · rcases fetched : query fetching state' with ⟨outcome, state''⟩
    dsimp only
    rw [Run.noting_of_eq fetched, fetched, List.append_assoc]
    rfl

end

/-- The journal of a request begins with its first statement, and all of its statements are in it
where they are answered. -/
theorem Executor.Journals.serve {executor : Executor (σ × List Statement)}
    (journals : executor.Journals) (request : Request) (state : σ) (noted : List Statement) :
    ∃ ran, (executor.serve (state, noted) request).2 = noted ++ ran ∧
      ran ≠ [] ∧ ran <+: request.statements ∧
      (executor.answers (state, noted) request = true → ran = request.statements) := by
  have some : request.statements ≠ [] := by cases request <;> exact List.cons_ne_nil _ _
  cases journals with
  | noting executor =>
    refine ⟨request.statements, ?_, some, List.prefix_rfl, fun _ => rfl⟩
    cases request <;> rfl
  | plain query execute =>
    cases request with
    | rows statement => exact ⟨[statement], rfl, some, List.prefix_rfl, fun _ => rfl⟩
    | count counting =>
      rw [Executor.serve, count_plain]
      exact ⟨[counting], rfl, some, List.prefix_rfl, fun _ => rfl⟩
    | page counting fetching =>
      rw [Executor.serve, answers, page_plain]
      rcases Run.count query counting state with ⟨e | total, state'⟩
      · refine ⟨[counting], rfl, List.cons_ne_nil _ _, ⟨[fetching], rfl⟩, nofun⟩
      · exact ⟨[counting, fetching], rfl, some, List.prefix_rfl, fun _ => rfl⟩

end Clausal
