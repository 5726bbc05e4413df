import Clausal.Proofs.Select.Setting
import Clausal.Proofs.Select.Terminal
/-!
# The remembered statement

A querier remembers a statement only as long as building it anew would give the same: `Coherent` is
the invariant, and everything that can be called on a querier keeps it. Each call changes the query
by its settings and by nothing else, so after any calls a build gives what a new querier gives that
has the lasting settings only.
-/

namespace Clausal.Querier

/-- A remembered statement is the statement of the query. -/
def Coherent (q : Querier) : Prop :=
  ∀ statement, q.memo = some statement → q.query.statement = .ok statement

theorem coherent_of_memo {q : Querier} (forgotten : q.memo = none) : q.Coherent := by
  intro statement remembered
  rw [forgotten] at remembered
  cases remembered

theorem Origin.coherent (origin : Origin) : origin.querier.Coherent := by
  cases origin <;> exact coherent_of_memo rfl

theorem coherent_write {q : Querier} (coherent : q.Coherent) (settings : List Setting) :
    (q.write settings).Coherent := by
  induction settings generalizing q with
  | nil => exact coherent
  | cons s rest ih => exact ih (coherent_of_memo (s.memo_write q))

/-! ## Building -/

/-- Whether or not a statement is remembered, building gives the statement of the query. -/
theorem build_of_coherent {q : Querier} (coherent : q.Coherent) :
    q.build.1 = q.query.statement := by
  unfold build
  cases remembered : q.memo with
  | some statement => exact (coherent statement remembered).symm
  | none => cases q.query.statement <;> rfl

theorem query_build (q : Querier) : q.build.2.query = q.query := by
  unfold build
  cases q.memo with
  | some statement => rfl
  | none => cases q.query.statement <;> rfl

theorem coherent_build {q : Querier} (coherent : q.Coherent) : q.build.2.Coherent := by
  unfold build
  cases q.memo with
  | some statement => exact coherent
  | none =>
    cases built : q.query.statement with
    | error e => exact coherent
    | ok statement =>
      intro other remembered
      cases remembered
      exact built

/-- A build that fails changes nothing. -/
theorem build_of_error {q : Querier} {e : Error} (failed : q.build.1 = .error e) :
    q.build.2 = q := by
  unfold build at failed ⊢
  cases remembered : q.memo with
  | some statement => rfl
  | none =>
    cases built : q.query.statement with
    | error e' => rfl
    | ok statement =>
      rw [remembered, built] at failed
      cases failed

/-! ## Changes by settings only -/

/-- The query has changed by the settings and by nothing else, and what is remembered is right. -/
structure Follows (q : Querier) (settings : List Setting) (q' : Querier) : Prop where
  query : q'.query = (q.write settings).query
  coherent : q'.Coherent

namespace Follows

theorem refl {q : Querier} (coherent : q.Coherent) : q.Follows [] q :=
  ⟨rfl, coherent⟩

theorem write {q : Querier} (coherent : q.Coherent) (settings : List Setting) :
    q.Follows settings (q.write settings) :=
  ⟨rfl, coherent_write coherent settings⟩

theorem build {q : Querier} (coherent : q.Coherent) : q.Follows [] q.build.2 :=
  ⟨query_build q, coherent_build coherent⟩

theorem trans {q q' q'' : Querier} {first second : List Setting} (before : q.Follows first q')
    (after : q'.Follows second q'') : q.Follows (first ++ second) q'' := by
  refine ⟨?_, after.coherent⟩
  rw [after.query, write_append]
  exact query_write_congr before.query second

end Follows

end Clausal.Querier

namespace Clausal.Terminal

open Querier

variable {σ α β : Type}

/-- Whatever comes of a terminal, its settings are all that it changes in the querier. -/
def Writes (t : Terminal σ α) (settings : List Setting) : Prop :=
  ∀ (q : Querier) (state : σ), q.Coherent → q.Follows settings (run t q state).1.2

theorem writes_pure (a : α) : (pure a : Terminal σ α).Writes [] :=
  fun _ _ coherent => .refl coherent

theorem writes_get : (get : Terminal σ Querier).Writes [] :=
  fun _ _ coherent => .refl coherent

theorem writes_ofRun (action : Run σ α) : (ofRun action).Writes [] :=
  fun _ _ coherent => .refl coherent

theorem writes_countStatement : (countStatement : Terminal σ Statement).Writes [] :=
  fun _ _ coherent => .refl coherent

theorem writes_statement : (statement : Terminal σ Statement).Writes [] :=
  fun _ _ coherent => .build coherent

theorem writes_change (settings : List Setting) :
    (change fun q => q.write settings : Terminal σ Unit).Writes settings :=
  fun _ _ coherent => .write coherent settings

/-- What follows the changes of a terminal may fail or not be reached, as long as it changes nothing
more. -/
theorem Writes.bind {t : Terminal σ α} {f : α → Terminal σ β} {settings : List Setting}
    (first : t.Writes settings) (rest : ∀ a, (f a).Writes []) : (t >>= f).Writes settings := by
  intro q state coherent
  have before := first q state coherent
  rw [run_bind]
  generalize run t q state = reached at before ⊢
  obtain ⟨⟨outcome, q'⟩, state'⟩ := reached
  cases outcome with
  | error e => exact before
  | ok a => simpa using before.trans (rest a q' state' before.coherent)

end Clausal.Terminal

namespace Clausal.Querier

variable {σ : Type}

open Terminal

/-! ## Terminals -/

theorem writes_runQuery (executor : Executor σ) : (runQuery executor).Writes [] :=
  writes_statement.bind fun _ => writes_ofRun _

theorem writes_runRow (executor : Executor σ) : (runRow executor).Writes [.limit 1] :=
  (writes_change [.limit 1]).bind fun _ => (writes_runQuery executor).bind fun _ => writes_pure _

theorem writes_runScalar (executor : Executor σ) : (runScalar executor).Writes [] :=
  (writes_runQuery executor).bind fun _ => writes_pure _

theorem writes_runAll (executor : Executor σ) : (runAll executor).Writes [] :=
  (writes_runQuery executor).bind fun _ => writes_pure _

theorem writes_runAssociated (executor : Executor σ) (column : String) :
    (runAssociated executor column).Writes [] :=
  (writes_runQuery executor).bind fun _ => writes_pure _

theorem writes_runCount (executor : Executor σ) : (runCount executor).Writes [] :=
  writes_countStatement.bind fun _ => writes_ofRun _

theorem writes_runPage (executor : Executor σ) (page size : UInt64) :
    (runPage executor page size).Writes [.offset (pageOffset page size), .limit size] :=
  (writes_change [.offset (pageOffset page size), .limit size]).bind fun _ =>
    writes_countStatement.bind fun _ => writes_statement.bind fun _ => writes_get.bind fun _ =>
      (writes_ofRun _).bind fun _ => writes_pure _

/-! ## Calls -/

/-- What can be called on a querier. Each terminal runs on an executor of its own choice. -/
inductive Call (σ : Type) where
  | set (setting : Setting)
  | paginate (number size : UInt64)
  | build
  | countStatement
  | query (executor : Executor σ)
  | row (executor : Executor σ)
  | scalar (executor : Executor σ)
  | all (executor : Executor σ)
  | associated (executor : Executor σ) (column : String)
  | count (executor : Executor σ)
  | page (executor : Executor σ) (number size : UInt64)

/-- The querier and the state of the executors after a terminal, whatever came of it. -/
def after {α : Type} (t : Terminal σ α) (s : Querier × σ) : Querier × σ :=
  ((run t s.1 s.2).1.2, (run t s.1 s.2).2)

namespace Call

/-- What a call leaves behind. -/
def perform : Call σ → Querier × σ → Querier × σ
  | set setting, (q, state) => (setting.write q, state)
  | paginate number size, (q, state) => (q.paginate number size, state)
  | build, (q, state) => (q.build.2, state)
  | countStatement, (q, state) => (q, state)
  | query executor, s => after (runQuery executor) s
  | row executor, s => after (runRow executor) s
  | scalar executor, s => after (runScalar executor) s
  | all executor, s => after (runAll executor) s
  | associated executor column, s => after (runAssociated executor column) s
  | count executor, s => after (runCount executor) s
  | page executor number size, s => after (runPage executor number size) s

/-- The settings of a call. A row sets the limit, a page sets the offset and the limit, and no other
terminal sets anything. -/
def settings : Call σ → List Setting
  | set setting => [setting]
  | paginate number size => [.offset (pageOffset number size), .limit size]
  | row _ => [.limit 1]
  | page _ number size => [.offset (pageOffset number size), .limit size]
  | _ => []

/-- A call changes the query by its settings only. -/
theorem follows_perform (call : Call σ) {q : Querier} (coherent : q.Coherent) (state : σ) :
    q.Follows call.settings (call.perform (q, state)).1 := by
  cases call with
  | set setting => exact .write coherent [setting]
  | paginate number size =>
    exact .write coherent [.offset (pageOffset number size), .limit size]
  | build => exact .build coherent
  | countStatement => exact .refl coherent
  | query executor => exact writes_runQuery executor q state coherent
  | row executor => exact writes_runRow executor q state coherent
  | scalar executor => exact writes_runScalar executor q state coherent
  | all executor => exact writes_runAll executor q state coherent
  | associated executor column => exact writes_runAssociated executor column q state coherent
  | count executor => exact writes_runCount executor q state coherent
  | page executor number size => exact writes_runPage executor number size q state coherent

end Call

/-- The querier and the state of the executors after several calls. -/
def performAll (calls : List (Call σ)) (s : Querier × σ) : Querier × σ :=
  calls.foldl (fun s call => call.perform s) s

/-- Calls change the query by their settings only. -/
theorem follows_performAll (calls : List (Call σ)) {q : Querier} (coherent : q.Coherent)
    (state : σ) : q.Follows (calls.flatMap Call.settings) (performAll calls (q, state)).1 := by
  induction calls generalizing q state with
  | nil => exact .refl coherent
  | cons call rest ih =>
    -- What is remembered after the first call is right, so the rest starts as the first did.
    have first := call.follows_perform coherent state
    exact first.trans (ih first.coherent (call.perform (q, state)).2)

/-- After any calls a build gives what a new querier of the same origin gives that has the lasting
settings only. A call changes the query by its settings, and a build that fails changes nothing:
what is called later goes as if it had not been made. -/
theorem build_lasting (origin : Origin) (calls : List (Call σ)) (state : σ) :
    ∃ q state', performAll calls (origin.querier, state) = (q, state') ∧
      q.build.1 = (origin.fresh (calls.flatMap Call.settings)).build.1 ∧
      (∀ call : Call σ, (call.perform (q, state')).1.query = (q.write call.settings).query) ∧
      ∀ e, q.build.1 = .error e → q.build.2 = q ∧
        ∀ later : List (Call σ),
          performAll (.build :: later) (q, state') = performAll later (q, state') := by
  have reached := follows_performAll calls origin.coherent state
  have fresh : (origin.fresh (calls.flatMap Call.settings)).Coherent :=
    coherent_write origin.coherent _
  generalize performAll calls (origin.querier, state) = ended at reached ⊢
  obtain ⟨q, state'⟩ := ended
  refine ⟨q, state', rfl, ?_, ?_, ?_⟩
  · rw [build_of_coherent reached.coherent, build_of_coherent fresh, origin.query_fresh,
      reached.query]
  · intro call
    exact (call.follows_perform reached.coherent state').query
  · intro e failed
    have unchanged := build_of_error failed
    refine ⟨unchanged, fun later => ?_⟩
    exact congrArg (fun q' => performAll later (q', state')) unchanged

/-- A build without a table fails; the table is set later, as if it had not been built before. -/
theorem build_lasting_corrected :
    ∃ q state', performAll [.set (.orderBy "id"), .build]
        (Origin.selection.querier, ([] : List Statement)) = (q, state') ∧
      q.build.1 = .error .noTable ∧
      performAll [.build, .set (.table "t")] (q, state') =
        performAll [.set (.table "t")] (q, state') := by
  obtain ⟨q, state', reached, -, -, failed⟩ := build_lasting .selection
    [.set (.orderBy "id"), .build] ([] : List Statement)
  have noTable : q.build.1 = .error .noTable := by
    cases reached
    rfl
  exact ⟨q, state', reached, noTable, (failed _ noTable).2 [.set (.table "t")]⟩

end Clausal.Querier
