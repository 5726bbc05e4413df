import Clausal.Execution.UserTable
import Clausal.Proofs.Select.Memo
/-!
# Counting the rows that are fetched

The statement that counts and the statement that fetches are made of the same rows: both fail alike,
or one wraps the text that the other begins with, and both bind the same values. Order, offset and
limit are no part of the rows, so neither they nor paging change what is counted.
-/

namespace Clausal

namespace Selection

theorem countStatement_eq (s : Selection) :
    s.countStatement = s.rows.map fun rows => rows.toStatement.counting := by
  unfold countStatement
  cases s.rows <;> rfl

theorem statement_eq (s : Selection) :
    s.statement = s.rows.map fun rows => (rows ++ s.orderClause ++ s.limitClause).toStatement := by
  unfold statement
  cases s.rows <;> rfl

/-- Order and limit bring no values along. -/
theorem params_orderClause (s : Selection) : s.orderClause.params = [] := by
  unfold orderClause
  split <;> rfl

theorem params_limitClause (s : Selection) : s.limitClause.params = [] := by
  unfold limitClause
  split <;> rfl

/-- What follows the rows in the statement that fetches them. -/
def tail (s : Selection) : String :=
  (if Text.isBlankString s.orderBy then "" else " ORDER BY " ++ Text.trimmed s.orderBy) ++
    (if s.limit = 0 then ""
      else " LIMIT " ++ toString s.offset.toNat ++ ", " ++ toString s.limit.toNat)

theorem sql_tail (s : Selection) : s.orderClause.sql ++ s.limitClause.sql = s.tail := by
  unfold orderClause limitClause tail
  split <;> split <;> rfl

/-- Both statements, from the rows. -/
theorem statements_eq (s : Selection) :
    (∃ e, s.rows = .error e ∧ s.countStatement = .error e ∧ s.statement = .error e) ∨
      ∃ rows, s.rows = .ok rows ∧
        s.countStatement = .ok ⟨"SELECT COUNT(0) FROM ( " ++ rows.sql ++ " ) a", rows.params⟩ ∧
        s.statement = .ok ⟨rows.sql ++ s.tail, rows.params⟩ := by
  rw [countStatement_eq, statement_eq]
  cases s.rows with
  | error e => exact .inl ⟨e, rfl, rfl, rfl⟩
  | ok rows =>
    refine .inr ⟨rows, rfl, rfl, ?_⟩
    have text : (rows ++ s.orderClause ++ s.limitClause).sql = rows.sql ++ s.tail := by
      rw [Fragment.sql_append, Fragment.sql_append, String.append_assoc, sql_tail]
    have values : (rows ++ s.orderClause ++ s.limitClause).params = rows.params := by
      rw [Fragment.params_append, Fragment.params_append, params_orderClause, params_limitClause,
        List.append_nil, List.append_nil]
    rw [← text, ← values]
    rfl

end Selection

namespace Querier

/-! ## Without a given text -/

theorem statement_of_plain {q : Querier} (plain : q.isGiven = false) :
    q.query.statement = q.query.selection.statement := by
  unfold Query.statement
  cases given : q.query.given with
  | none => rfl
  | some s => simp [isGiven, given] at plain

theorem countStatement_of_plain {q : Querier} (plain : q.isGiven = false) :
    q.countStatement = q.query.selection.countStatement := by
  have none : q.query.given.isSome = false := plain
  simp [countStatement, Query.countStatement, none]

/-- A querier that was made for a selection stays one. -/
theorem plain_of_follows {q : Querier} {settings : List Setting}
    (follows : Origin.selection.querier.Follows settings q) : q.isGiven = false := by
  have given : q.isGiven = (Origin.selection.querier.write settings).isGiven :=
    congrArg (·.given.isSome) follows.query
  rw [given, isGiven_write]
  rfl

/-! ## What does not change the rows -/

/-- Whether a setting is no part of the rows: the order, the offset and the limit. -/
def Setting.keepsRows (s : Setting) : Bool :=
  match s.slot with
  | .orderBy => true
  | .offset => true
  | .limit => true
  | _ => false

/-- Whether a call sets nothing but order, offset and limit. Setting them, paginating, building and
all terminals are such calls. -/
def Call.keepsRows {σ : Type} (call : Call σ) : Bool :=
  call.settings.all Setting.keepsRows

theorem rows_write {s : Setting} (keeps : s.keepsRows = true) (q : Querier) :
    (s.write q).query.selection.rows = q.query.selection.rows := by
  cases s with
  | orderBy text => rfl
  | offset rows => rfl
  | limit rows => rfl
  | _ => cases keeps

/-- What is counted stays the same as long as the rows do. -/
theorem countStatement_of_follows {q q' : Querier} {settings : List Setting}
    (follows : q.Follows settings q') (plain : q.isGiven = false)
    (keeps : settings.all Setting.keepsRows = true) : q'.countStatement = q.countStatement := by
  have plain' : q'.isGiven = false := by
    have given : q'.isGiven = (q.write settings).isGiven :=
      congrArg (·.given.isSome) follows.query
    rw [given, isGiven_write, plain]
  rw [countStatement_of_plain plain, countStatement_of_plain plain', Selection.countStatement_eq,
    Selection.countStatement_eq, follows.query,
    write_preserves (·.query.selection.rows) (fun _ => rows_write) keeps]

/-! ## One count for all pages -/

/-- A querier whose rows are counted by one statement: counting and every page hand that statement
to the executor. Without it they fail with its error, and the executor is not reached. -/
structure CountedBy (σ : Type) (q : Querier) (counting : Except Error Statement) : Prop where
  count : ∀ (executor : Executor σ) (state : σ), run (runCount executor) q state =
    match counting with
    | .ok counting => (((executor.count counting state).1, q), (executor.count counting state).2)
    | .error e => ((.error e, q), state)
  page : ∀ (executor : Executor σ) (number size : UInt64) (state : σ), ∃ q',
    match counting with
    | .ok counting => ∃ fetching, (q.paginate number size).build = (.ok fetching, q') ∧
      run (runPage executor number size) q state =
        (((executor.page counting fetching state).1.map (q'.paged number size), q'),
          (executor.page counting fetching state).2)
    | .error e => run (runPage executor number size) q state = ((.error e, q'), state)

theorem countedBy_countStatement (σ : Type) {q : Querier} (coherent : q.Coherent)
    (plain : q.isGiven = false) : q.CountedBy σ q.countStatement where
  count := fun executor state => run_runCount executor q state
  page := by
    intro executor number size state
    have paged := Follows.write coherent [.offset (pageOffset number size), .limit size]
    have same : (q.paginate number size).countStatement = q.countStatement :=
      countStatement_of_follows paged plain rfl
    rw [run_runPage, same]
    cases counted : q.countStatement with
    | error e => exact ⟨_, rfl⟩
    | ok counting =>
      have plain' : (q.paginate number size).isGiven = false := plain
      have built : (q.paginate number size).build.1 = _ := build_of_coherent paged.coherent
      rw [counted, countStatement_of_plain plain'] at same
      rw [statement_of_plain plain'] at built
      rcases (q.paginate number size).query.selection.statements_eq with
        ⟨e, -, failed, -⟩ | ⟨rows, -, -, fetched⟩
      · rw [failed] at same
        cases same
      · rw [fetched] at built
        refine ⟨(q.paginate number size).build.2, _, Prod.ext built rfl, ?_⟩
        rw [← Prod.eta (q.paginate number size).build, built]

/-- After any calls on a querier that is made for a selection, counting and fetching fail with the
same error, or one text and one list of values are in both statements. Calls that keep the rows keep
the counting statement, and it is what a count and every page run. -/
theorem count_build_rows {σ : Type} (calls : List (Call σ)) (state : σ) :
    ∃ q state', performAll calls (Origin.selection.querier, state) = (q, state') ∧
      ((∃ e, q.countStatement = .error e ∧ q.build.1 = .error e) ∨
        ∃ (inner : String) (params : List SqlValue),
          q.countStatement = .ok ⟨"SELECT COUNT(0) FROM ( " ++ inner ++ " ) a", params⟩ ∧
          q.build.1 = .ok ⟨inner ++ q.query.selection.tail, params⟩) ∧
      ∀ paging : List (Call σ), (∀ call ∈ paging, call.keepsRows = true) →
        ∃ q' state'', performAll paging (q, state') = (q', state'') ∧
          q'.countStatement = q.countStatement ∧ q'.CountedBy σ q.countStatement := by
  have reached := follows_performAll calls Origin.selection.coherent state
  generalize performAll calls (Origin.selection.querier, state) = ended at reached ⊢
  obtain ⟨q, state'⟩ := ended
  have plain := plain_of_follows reached
  refine ⟨q, state', rfl, ?_, ?_⟩
  · rw [countStatement_of_plain plain, build_of_coherent reached.coherent,
      statement_of_plain plain]
    rcases q.query.selection.statements_eq with
      ⟨e, -, counted, fetched⟩ | ⟨rows, -, counted, fetched⟩
    · exact .inl ⟨e, counted, fetched⟩
    · exact .inr ⟨rows.sql, rows.params, counted, fetched⟩
  · intro paging keeps
    have later := follows_performAll paging reached.coherent state'
    have kept : (paging.flatMap Call.settings).all Setting.keepsRows = true := by
      rw [List.all_flatMap, List.all_eq_true]
      exact keeps
    have plain' := plain_of_follows (reached.trans later)
    have same := countStatement_of_follows later plain kept
    refine ⟨_, _, rfl, same, ?_⟩
    rw [← same]
    exact countedBy_countStatement σ later.coherent plain'

/-- Paging, building and running keep the count of a table. -/
theorem count_build_rows_users :
    ∃ (q : Querier) (state' : List Statement),
      performAll [.set (.table "users")] (Origin.selection.querier, []) = (q, state') ∧
      ∃ q' state'',
        performAll [.paginate 2 10, .build, .row (UserTable.executor 25), .set (.orderBy "id"),
          .page (UserTable.executor 25) 3 5] (q, state') = (q', state'') ∧
        q'.countStatement = .ok ⟨"SELECT COUNT(0) FROM ( SELECT * FROM `users` ) a", []⟩ := by
  obtain ⟨q, state', reached, -, paging⟩ :=
    count_build_rows [.set (.table "users")] ([] : List Statement)
  obtain ⟨q', state'', paged, same, -⟩ := paging
    [.paginate 2 10, .build, .row (UserTable.executor 25), .set (.orderBy "id"),
      .page (UserTable.executor 25) 3 5] (by decide)
  refine ⟨q, state', reached, q', state'', paged, same.trans ?_⟩
  cases reached
  rfl

end Querier

end Clausal
