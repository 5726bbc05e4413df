import Clausal.Execution.UserTable
import Clausal.Proofs.Execution.Journal
import Clausal.Proofs.Select.Fault
import Clausal.Proofs.Select.Memo
/-!
# What reaches an executor

There are seven ways to run a querier, and each comes down to one request to the executor, made of
the statements of the querier. Where these cannot be built there is no request, so the executor is
left alone. A given text is fetched as it is; what can be wrong with it is only its count.
-/

namespace Clausal

variable {σ α β : Type}

namespace Terminal

open Querier

/-- What comes of a terminal, its querier left aside. -/
def outcome (t : Terminal σ α) (q : Querier) : Run σ α :=
  fun state => ((run t q state).1.1, (run t q state).2)

/-- What is made of a result does not reach the executor. -/
theorem outcome_map (t : Terminal σ α) (f : α → β) (q : Querier) :
    (t >>= fun a => pure (f a)).outcome q =
      fun state => ((t.outcome q state).1.map f, (t.outcome q state).2) := by
  funext state
  rw [outcome, outcome, run_map]

end Terminal

namespace Querier

open Terminal

/-! ## Ways to run a querier -/

/-- A way to run a querier. -/
inductive Way where
  | query
  | row
  | scalar
  | all
  | associated (column : String)
  | count
  | page (number size : UInt64)

namespace Way

/-- What a way gives. -/
def Result : Way → Type
  | query => QueryResult
  | row => Option Row
  | scalar => String
  | all => List Row
  | associated _ => SortedMap Row
  | count => UInt64
  | page _ _ => QueryResult

/-- Runs the querier that way. -/
def run (executor : Executor σ) : (way : Way) → Terminal σ way.Result
  | query => runQuery executor
  | row => runRow executor
  | scalar => runScalar executor
  | all => runAll executor
  | associated column => runAssociated executor column
  | count => runCount executor
  | page number size => runPage executor number size

/-- Whether a way counts rows, be it before it fetches some. -/
def counts : Way → Bool
  | count => true
  | page _ _ => true
  | _ => false

/-- The request of a way. A row sets the limit first, a page sets the offset and the limit. -/
def request (q : Querier) : Way → Except Error Request
  | count => q.query.countStatement.map .count
  | page number size => do
    let counting ← (q.paginate number size).query.countStatement
    return .page counting (← (q.paginate number size).query.statement)
  | row => (q.limit 1).query.statement.map .rows
  | _ => q.query.statement.map .rows

end Way

theorem asks_runQuery (executor : Executor σ) {q : Querier} (coherent : q.Coherent) :
    Asks executor ((runQuery executor).outcome q) (q.query.statement.map .rows) := by
  rw [← build_of_coherent coherent]
  rcases made : q.build with ⟨e | statement, q'⟩
  · exact .refused fun state => by rw [outcome, run_runQuery, made]
  · refine .served (fun state => ?_) fun state => ?_ <;> rw [outcome, run_runQuery, made]
    · rfl
    · exact id

theorem asks_runCount (executor : Executor σ) (q : Querier) :
    Asks executor ((runCount executor).outcome q) (Way.count.request q) := by
  have asked : Way.count.request q = q.countStatement.map .count := rfl
  rw [asked]
  rcases made : q.countStatement with e | counting
  · exact .refused fun state => by rw [outcome, run_runCount, made]
  · refine .served (fun state => ?_) fun state => ?_ <;> rw [outcome, run_runCount, made]
    · rfl
    · exact id

theorem asks_runPage (executor : Executor σ) (q : Querier) (number size : UInt64) :
    Asks executor ((runPage executor number size).outcome q)
      ((Way.page number size).request q) := by
  have fresh : (q.paginate number size).Coherent := coherent_of_memo rfl
  have asked : (Way.page number size).request q =
      (q.paginate number size).countStatement.bind fun counting =>
        (q.paginate number size).build.1.map (.page counting) := by
    rw [build_of_coherent fresh, Way.request]
    cases (q.paginate number size).query.statement <;> rfl
  rw [asked]
  rcases counted : (q.paginate number size).countStatement with e | counting
  · exact .refused fun state => by rw [outcome, run_runPage, counted]
  · rcases built : (q.paginate number size).build with ⟨e | fetching, q'⟩
    · exact .refused fun state => by rw [outcome, run_runPage, counted, built]
    · refine .served (fun state => ?_) fun state => ?_ <;> rw [outcome, run_runPage, counted, built]
      · rfl
      · dsimp only [Executor.answers]
        rcases executor.page counting fetching state with ⟨e | answer, state'⟩
        · exact id
        · exact fun _ => rfl

/-- Each way makes its request. -/
theorem Way.asks (way : Way) (executor : Executor σ) {q : Querier} (coherent : q.Coherent) :
    Asks executor ((way.run executor).outcome q) (way.request q) := by
  have mapped {β : Type} {q : Querier} (coherent : q.Coherent) (f : QueryResult → β) :
      Asks executor ((runQuery executor >>= fun result => pure (f result)).outcome q)
        (q.query.statement.map .rows) := by
    rw [outcome_map]
    exact (asks_runQuery executor coherent).map f
  cases way with
  | query => exact asks_runQuery executor coherent
  | row =>
    -- The limit is set on the querier, so what comes of it is what comes of a limited querier.
    have limited : (q.limit 1).Coherent := coherent_of_memo rfl
    exact mapped limited _
  | scalar => exact mapped coherent _
  | all => exact mapped coherent _
  | associated column => exact mapped coherent _
  | count => exact asks_runCount executor q
  | page number size => exact asks_runPage executor q number size

/-! ## What keeps a querier from being run -/

/-- What is wrong with a query for a way to run it. -/
def Way.fault? (query : Query) (way : Way) : Option Error :=
  match query.given with
  | some given => if way.counts then query.givenFault? given else none
  | none => query.selection.fault?

theorem errorOf?_map (outcome : Except Error α) (f : α → β) :
    errorOf? (outcome.map f) = errorOf? outcome := by
  cases outcome <;> rfl

theorem errorOf?_fetching (query : Query) :
    errorOf? (query.statement.map Request.rows) = Way.query.fault? query := by
  rw [errorOf?_map, Query.errorOf?_statement, Way.fault?]
  cases query.given <;> rfl

theorem errorOf?_paging (query : Query) (number size : UInt64) :
    errorOf? (do
      let counting ← query.countStatement
      return Request.page counting (← query.statement)) = (Way.page number size).fault? query := by
  have counted := query.errorOf?_countStatement
  have fetched := query.errorOf?_statement
  have fault : (Way.page number size).fault? query = errorOf? query.countStatement := by
    rw [counted, Way.fault?]
    rfl
  rw [fault]
  cases made : query.countStatement with
  | error e => rfl
  | ok counting =>
    -- What can be counted can be fetched.
    have built : errorOf? query.statement = none := by
      rw [made] at counted
      rw [fetched]
      cases given : query.given with
      | some text => rfl
      | none =>
        rw [given] at counted
        exact counted.symm
    cases statement : query.statement with
    | error e =>
      rw [statement] at built
      cases built
    | ok fetching => rfl

/-- A way makes no request exactly because of what is wrong with the query. What it sets before, the
limit or the page, is nothing that can be wrong. -/
theorem Way.errorOf?_request (way : Way) (q : Querier) :
    errorOf? (way.request q) = way.fault? q.query := by
  cases way with
  | query => exact errorOf?_fetching q.query
  | row => exact errorOf?_fetching (q.limit 1).query
  | scalar => exact errorOf?_fetching q.query
  | all => exact errorOf?_fetching q.query
  | associated column => exact errorOf?_fetching q.query
  | count =>
    rw [request, errorOf?_map, Query.errorOf?_countStatement, fault?]
    rfl
  | page number size => exact errorOf?_paging (q.paginate number size).query number size

/-- A way to run a querier that something may keep from running. With that, it fails with its error,
on every executor, and leaves the executor alone. Without it, the executor is handed statements and,
where it has no ways of its own to count and to fetch a page, runs them. -/
structure Way.Guarded (way : Way) (q : Querier) (fault : Option Error) : Prop where
  fails : ∀ e, fault = some e → ∀ {σ : Type} (executor : Executor σ) (state : σ),
    (way.run executor).outcome q state = (.error e, state)
  runs : ∀ {σ : Type} {executor : Executor (σ × List Statement)}, executor.Journals →
    ∀ (state : σ) (noted : List Statement), ∃ ran,
      ((way.run executor).outcome q (state, noted)).2.2 = noted ++ ran ∧
        (ran = [] ↔ fault.isSome = true)

theorem Way.guarded (way : Way) {q : Querier} (coherent : q.Coherent) :
    way.Guarded q (way.fault? q.query) := by
  have asks {σ : Type} (executor : Executor σ) := way.asks executor coherent
  rw [← way.errorOf?_request q]
  generalize way.request q = asked at asks
  constructor
  · intro e faulty σ executor state
    cases asks executor with
    | refused ran =>
      cases faulty
      exact ran state
    | served left answered => cases faulty
  · intro σ executor journals state noted
    cases asks executor with
    | refused ran => exact ⟨[], by rw [ran, List.append_nil], by simp [errorOf?]⟩
    | @served request left answered =>
      obtain ⟨ran, served, some, -⟩ := journals.serve request state noted
      exact ⟨ran, by rw [left, served], by simp [errorOf?, some]⟩

/-- A way to run a querier that always hands one statement to the executor, and no other. -/
def Way.Sends (way : Way) (q : Querier) (statement : Statement) : Prop :=
  ∀ {σ : Type} (executor : Executor σ) (state : σ) (noted : List Statement),
    ((way.run executor.noting).outcome q (state, noted)).2 =
      ((executor.query statement state).2, noted ++ [statement])

theorem Way.sends {way : Way} (fetches : way.counts = false) {q : Querier}
    (coherent : q.Coherent) {given : Statement} (text : q.query.given = some given) :
    way.Sends q given := by
  have made : way.request q = .ok (.rows given) := by
    have whole {query : Query} (text : query.given = some given) :
        query.statement.map Request.rows = .ok (.rows given) := by
      rw [Query.statement, text]
      rfl
    have limited : (q.limit 1).query.given = some given := text
    cases way with
    | row => exact whole limited
    | count => cases fetches
    | page number size => cases fetches
    | _ => exact whole text
  intro σ executor state noted
  have asks := way.asks executor.noting coherent
  rw [made] at asks
  cases asks with
  | served left answered => exact left (state, noted)

/-! ## Given texts -/

/-- The value that a setting binds. -/
def Setting.value? : Setting → Option SqlValue
  | value v => some v
  | _ => none

/-- A given text stays as it is; the values bound to it are collected. -/
theorem given_write (settings : List Setting) (q : Querier) : (q.write settings).query.given =
    q.query.given.map fun s => ⟨s.sql, s.params ++ settings.filterMap Setting.value?⟩ := by
  induction settings generalizing q with
  | nil =>
    cases given : q.query.given <;> simp [write, given]
  | cons s rest ih =>
    rw [write_cons, ih]
    cases s with
    | value v =>
      have bound : (Setting.write q (.value v)).query.given =
          q.query.given.map fun s => { s with params := s.params ++ [v] } := rfl
      rw [bound, Option.map_map]
      refine congrArg (Option.map · q.query.given) ?_
      funext s
      simp [Setting.value?]
    | _ => rfl

/-! ## Runs -/

/-- What is wrong with a selection keeps it from every executor, whichever way it is run and
whatever was called on its querier before. A given text is fetched as it is, with the values that
were bound to it. It is counted unless it is blank, and with a filter unless the selection is
faulty. -/
theorem faulty_runs_nothing {τ : Type} (calls : List (Call τ)) (start : τ) :
    (∃ q start', performAll calls (Origin.selection.querier, start) = (q, start') ∧
      ∀ way : Way, way.Guarded q q.query.selection.fault?) ∧
    ∀ sql : String, ∃ q start',
      performAll calls ((Origin.text sql).querier, start) = (q, start') ∧
      (∀ way : Way, way.counts = false → way.Sends q
        ⟨sql, (calls.flatMap Call.settings).filterMap Setting.value?⟩) ∧
      ∀ way : Way, way.counts = true → way.Guarded q
        (if q.hasFilter then q.query.selection.fault?
          else if Text.isBlankString sql then some .emptyQuery else none) := by
  constructor
  · have reached := follows_performAll calls Origin.selection.coherent start
    refine ⟨_, _, rfl, fun way => ?_⟩
    have guarded := way.guarded reached.coherent
    have given := congrArg Query.given reached.query
    rw [given_write] at given
    rw [Way.fault?, given] at guarded
    exact guarded
  · intro sql
    have reached := follows_performAll calls (Origin.text sql).coherent start
    have given := congrArg Query.given reached.query
    rw [given_write] at given
    refine ⟨_, _, rfl, fun way fetches => ?_, fun way counts => ?_⟩
    · exact way.sends fetches reached.coherent given
    · have guarded := way.guarded reached.coherent
      rw [Way.fault?, given] at guarded
      simp only [Origin.querier, ofText, Option.map_some, counts, if_true] at guarded
      exact guarded

/-- A join without a condition keeps a page from a table of users. A given text is handed to it with
its value. -/
theorem faulty_runs_nothing_join :
    (∃ q start', performAll [.set (.table "a"), .set (.join .left "b" " ")]
        (Origin.selection.querier, ()) = (q, start') ∧
      (runPage (UserTable.executor 25) 2 10).outcome q [] = (.error .incompleteJoin, [])) ∧
    ∃ q start', performAll [.set (.value (.int 1))] ((Origin.text "SELECT ?").querier, ()) =
        (q, start') ∧
      ((runAll (UserTable.executor 25).noting).outcome q ([], [])).2.2 =
        [⟨"SELECT ?", [.int 1]⟩] := by
  obtain ⟨⟨q, start', reached, guarded⟩, -⟩ :=
    faulty_runs_nothing [.set (.table "a"), .set (.join .left "b" " ")] ()
  obtain ⟨-, texts⟩ := faulty_runs_nothing [.set (.value (.int 1))] ()
  obtain ⟨given, start'', reached', sends, -⟩ := texts "SELECT ?"
  have fault : q.query.selection.fault? = some .incompleteJoin := by
    cases reached
    decide
  refine ⟨⟨q, start', reached, ?_⟩, given, start'', reached', ?_⟩
  · exact (guarded (.page 2 10)).fails _ fault (UserTable.executor 25) []
  · exact congrArg Prod.snd (sends .all rfl (UserTable.executor 25) [] [])

end Querier

end Clausal
