import Clausal.Select.Terminal
/-!
# What terminals do

A terminal is a chain of steps; the first that fails ends it and leaves the querier and the state as
they are then. Written out, each terminal is a few cases on the statements it builds.
-/

namespace Clausal.Terminal

open Querier

variable {σ α β : Type}

theorem run_bind (t : Terminal σ α) (f : α → Terminal σ β) (q : Querier) (state : σ) :
    run (t >>= f) q state =
      match run t q state with
      | ((.ok a, q'), state') => run (f a) q' state'
      | ((.error e, q'), state') => ((.error e, q'), state') := by
  change (match run t q state with
    | ((outcome, q'), state') => (ExceptT.bindCont f outcome) q' state') = _
  rcases run t q state with ⟨⟨outcome, q'⟩, state'⟩
  cases outcome <;> rfl

/-- What is made of a result changes neither the querier nor the state. -/
theorem run_map (t : Terminal σ α) (f : α → β) (q : Querier) (state : σ) :
    run (t >>= fun a => pure (f a)) q state =
      (((run t q state).1.1.map f, (run t q state).1.2), (run t q state).2) := by
  rw [run_bind]
  rcases run t q state with ⟨⟨e | a, q'⟩, state'⟩ <;> rfl

@[simp] theorem run_get (q : Querier) (state : σ) :
    run (get : Terminal σ Querier) q state = ((.ok q, q), state) := rfl

@[simp] theorem run_ofRun (action : Run σ α) (q : Querier) (state : σ) :
    run (ofRun action) q state = (((action state).1, q), (action state).2) := rfl

@[simp] theorem run_change (f : Querier → Querier) (q : Querier) (state : σ) :
    run (change f) q state = ((.ok (), f q), state) := rfl

@[simp] theorem run_statement (q : Querier) (state : σ) :
    run statement q state = (q.build, state) := rfl

@[simp] theorem run_countStatement (q : Querier) (state : σ) :
    run countStatement q state = ((q.countStatement, q), state) := rfl

end Clausal.Terminal

namespace Clausal.Querier

open Terminal

variable {σ : Type}

/-- The statement is handed to the executor, once it is there. -/
theorem run_runQuery (executor : Executor σ) (q : Querier) (state : σ) :
    run (runQuery executor) q state =
      match q.build with
      | (.ok statement, q') =>
        (((executor.query statement state).1, q'), (executor.query statement state).2)
      | (.error e, q') => ((.error e, q'), state) := by
  rw [runQuery, run_bind, run_statement]
  rcases q.build with ⟨built, q'⟩
  cases built <;> rfl

/-- Nothing but the rows of the answer is kept. -/
theorem run_runAll (executor : Executor σ) (q : Querier) (state : σ) :
    run (runAll executor) q state =
      (((run (runQuery executor) q state).1.1.map QueryResult.rows,
        (run (runQuery executor) q state).1.2), (run (runQuery executor) q state).2) :=
  run_map _ _ q state

/-- The limit is set first, and of the answer the first row is kept. -/
theorem run_runRow (executor : Executor σ) (q : Querier) (state : σ) :
    run (runRow executor) q state =
      (((run (runQuery executor) (q.limit 1) state).1.1.map fun result => result.rows.head?,
        (run (runQuery executor) (q.limit 1) state).1.2),
        (run (runQuery executor) (q.limit 1) state).2) := by
  rw [runRow, run_bind, run_change]
  exact run_map _ _ (q.limit 1) state

/-- The rows of the answer are put under their texts. -/
theorem run_runAssociated (executor : Executor σ) (column : String) (q : Querier) (state : σ) :
    run (runAssociated executor column) q state =
      (((run (runQuery executor) q state).1.1.map fun result => rowsByColumn column result.rows,
        (run (runQuery executor) q state).1.2), (run (runQuery executor) q state).2) :=
  run_map _ _ q state

/-- Counting hands the counting statement to the executor. -/
theorem run_runCount (executor : Executor σ) (q : Querier) (state : σ) :
    run (runCount executor) q state =
      match q.countStatement with
      | .ok counting =>
        (((executor.count counting state).1, q), (executor.count counting state).2)
      | .error e => ((.error e, q), state) := by
  rw [runCount, run_bind, run_countStatement]
  cases q.countStatement <;> rfl

/-- The result of a page, from what the executor answers. -/
def paged (q : Querier) (number size : UInt64) (answer : UInt64 × QueryResult) : QueryResult :=
  { answer.2 with
    total := answer.1
    offset := if q.isGiven then 0 else pageOffset number size
    rowCount := answer.2.rows.length }

/-- A page counts and fetches, once both statements are there. -/
theorem run_runPage (executor : Executor σ) (number size : UInt64) (q : Querier) (state : σ) :
    run (runPage executor number size) q state =
      match (q.paginate number size).countStatement, (q.paginate number size).build with
      | .ok counting, (.ok fetching, q') =>
        (((executor.page counting fetching state).1.map (q'.paged number size), q'),
          (executor.page counting fetching state).2)
      | .ok _, (.error e, q') => ((.error e, q'), state)
      | .error e, _ => ((.error e, q.paginate number size), state) := by
  rw [runPage, run_bind, run_change]
  dsimp only
  rw [run_bind, run_countStatement]
  cases (q.paginate number size).countStatement with
  | error e => rfl
  | ok counting =>
    dsimp only
    rw [run_bind, run_statement]
    rcases (q.paginate number size).build with ⟨built, q'⟩
    cases built with
    | error e => rfl
    | ok fetching =>
      dsimp only
      rw [run_bind, run_get]
      dsimp only
      rw [run_bind, run_ofRun]
      rcases executor.page counting fetching state with ⟨answer, state'⟩
      cases answer <;> rfl

end Clausal.Querier
