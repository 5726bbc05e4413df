import Clausal.Proofs.Execution.Journal
import Clausal.Proofs.Select.Memo
import Clausal.Proofs.Text.Numeral
/-!
# How a page is run

A page is two statements, and nothing is run unless both can be built. The one that counts is run
first; only where it gives a number is the one that fetches run, once. `PageRun` has one rule for
each way this can end, with the statements that were run by then.
-/

namespace Clausal

namespace QueryResult

/-- The number that a counting reply gives: that of its first cell, or zero without a cell. -/
inductive Counts (reply : QueryResult) : UInt64 → Prop
  | noRow : reply.rows = [] → Counts reply 0
  | noCell {row : Row} {rest : List Row} :
    reply.rows = row :: rest → row.values = [] → Counts reply 0
  | cell {row : Row} {rest : List Row} {cell : String} {cells : List String} {n : UInt64} :
    reply.rows = row :: rest → row.values = cell :: cells →
    Text.StandsFor (Text.trim cell.toList) n.toNat → Counts reply n

/-- The first cell of a counting reply is no number of 64 bits. -/
inductive Miscounts (reply : QueryResult) : String → Prop
  | cell {row : Row} {rest : List Row} {cell : String} {cells : List String} :
    reply.rows = row :: rest → row.values = cell :: cells →
    (∀ n : UInt64, ¬ Text.StandsFor (Text.trim cell.toList) n.toNat) → Miscounts reply cell

/-- A counting reply gives a number, or the error that quotes its first cell. -/
theorem count_cases (reply : QueryResult) :
    (∃ n, reply.count = .ok n ∧ reply.Counts n) ∨
      ∃ cell, reply.count =
          .error (.invalidValue ("count result '" ++ cell ++ "' is not a number")) ∧
        reply.Miscounts cell := by
  unfold count
  cases rows : reply.rows with
  | nil => exact .inl ⟨0, rfl, .noRow rows⟩
  | cons row rest =>
    rw [List.head?_cons, Option.bind_some, Row.first?]
    cases values : row.values with
    | nil => exact .inl ⟨0, rfl, .noCell rows values⟩
    | cons cell cells =>
      dsimp only [List.head?_cons]
      cases read : Text.readUInt64? (Text.trim cell.toList) with
      | some n =>
        exact .inl ⟨n, rfl, .cell rows values (Text.readUInt64?_eq_some_iff.mp read)⟩
      | none =>
        refine .inr ⟨cell, rfl, .cell rows values fun n stands => ?_⟩
        rw [Text.readUInt64?_eq_some_iff.mpr stands] at read
        cases read

end QueryResult

variable {σ : Type}

/-- The ways a page can end that starts at a state with its two statements, as far as they can be
built: with an answer, a state that is left, and the statements that were run. -/
inductive PageRun (query : Statement → Run σ QueryResult) (offset : UInt64) (state : σ) :
    Except Error Statement → Except Error Statement → Except Error QueryResult → σ →
      List Statement → Prop
  | uncountable {e : Error} (fetching : Except Error Statement) :
    PageRun query offset state (.error e) fetching (.error e) state []
  | unfetchable {counting : Statement} {e : Error} :
    PageRun query offset state (.ok counting) (.error e) (.error e) state []
  | uncounted {counting fetching : Statement} {e : Error} {state' : σ} :
    query counting state = (.error e, state') →
    PageRun query offset state (.ok counting) (.ok fetching) (.error e) state' [counting]
  | miscounted {counting fetching : Statement} {counted : QueryResult} {cell : String}
    {state' : σ} :
    query counting state = (.ok counted, state') → counted.Miscounts cell →
    PageRun query offset state (.ok counting) (.ok fetching)
      (.error (.invalidValue ("count result '" ++ cell ++ "' is not a number"))) state' [counting]
  | unfetched {counting fetching : Statement} {counted : QueryResult} {total : UInt64} {e : Error}
    {state' state'' : σ} :
    query counting state = (.ok counted, state') → counted.Counts total →
    query fetching state' = (.error e, state'') →
    PageRun query offset state (.ok counting) (.ok fetching) (.error e) state''
      [counting, fetching]
  | fetched {counting fetching : Statement} {counted reply : QueryResult} {total : UInt64}
    {state' state'' : σ} :
    query counting state = (.ok counted, state') → counted.Counts total →
    query fetching state' = (.ok reply, state'') →
    PageRun query offset state (.ok counting) (.ok fetching)
      (.ok { total, offset, rowCount := reply.rows.length, columns := reply.columns,
             rows := reply.rows }) state'' [counting, fetching]

namespace Querier

/-- A page on an executor with no way of its own to fetch one, whatever the executor replies and
whatever was done with the querier before. Its statements are those of the querier on that page, and
the offset it tells is the one that the querier has then. Its number of rows is that of the rows it
holds, also where the executor replies with another number. -/
theorem page_counts_first (query : Statement → Run σ QueryResult)
    (execute : Statement → Run σ WriteResult) (q : Querier) (number size : UInt64) (state : σ)
    (noted : List Statement) :
    ∃ outcome q' state' ran,
      run (runPage (Executor.plain query execute) number size) q (state, noted) =
        ((outcome, q'), (state', noted ++ ran)) ∧
      q'.query = (q.paginate number size).query ∧
      PageRun query (if q.isGiven then 0 else q'.query.selection.offset) state
        (q.paginate number size).countStatement (q.paginate number size).build.1 outcome state'
        ran := by
  rw [run_runPage]
  rcases made : (q.paginate number size).build with ⟨built, q'⟩
  have kept : q'.query = (q.paginate number size).query := by
    rw [← query_build (q.paginate number size), made]
  have given : q'.isGiven = q.isGiven := congrArg (·.given.isSome) kept
  have offset : q'.query.selection.offset = pageOffset number size :=
    congrArg (·.selection.offset) kept
  cases (q.paginate number size).countStatement with
  | error e => exact ⟨_, _, _, [], by rw [List.append_nil], rfl, .uncountable _⟩
  | ok counting =>
    cases built with
    | error e => exact ⟨_, q', _, [], by rw [List.append_nil], kept, .unfetchable⟩
    | ok fetching =>
      dsimp only
      rw [Executor.page_plain, Run.count_apply]
      rcases counted : query counting state with ⟨outcome, state'⟩
      cases outcome with
      | error e => exact ⟨_, q', _, [counting], rfl, kept, .uncounted counted⟩
      | ok reply =>
        dsimp only
        rcases reply.count_cases with ⟨total, read, counts⟩ | ⟨cell, read, miscounts⟩
        · rw [read]
          dsimp only
          rcases fetched : query fetching state' with ⟨answer, state''⟩
          cases answer with
          | error e =>
            exact ⟨_, q', _, [counting, fetching], rfl, kept, .unfetched counted counts fetched⟩
          | ok found =>
            refine ⟨_, q', _, [counting, fetching], rfl, kept, ?_⟩
            dsimp only [Except.map, paged]
            rw [given, offset]
            exact .fetched counted counts fetched
        · rw [read]
          exact ⟨_, q', _, [counting], rfl, kept, .miscounted counted miscounts⟩

-- Each reply tells of seven rows and holds none.
example : (run (runPage (Executor.plain (fun _ => pure { rowCount := 7 }) fun _ => pure {}) 1 10)
    (({} : Querier).table "a") ((), [])).1.1 = .ok { rowCount := 0 } :=
  rfl

end Querier

end Clausal
