import Clausal.Cli.Program
import Clausal.Proofs.Registry.LastRegistration
import Clausal.Proofs.Select.Ways
/-!
# What a dry run shows

A dry run makes its statements on its own: it selects the page, derives the count and builds. The
run itself selects the page once more and leaves the rest to the querier. Both come to one request,
which the dry run shows and the run itself makes of its executor; where there is no request, both
fail alike.
-/

namespace Clausal

/-- What a reader is told of a statement: its text and, if there are any, the bound values as
literals, numbered from one. -/
def Statement.shown (s : Statement) : List String :=
  s.sql :: match s.params with
    | [] => []
    | params => "Bindings:" ::
      params.mapIdx fun i value => "  ?" ++ toString (i + 1) ++ " = " ++ value.literal

/-- What a reader is told of a request: its statements in the order in which they are run. -/
def Request.shown : Request → List String
  | rows statement => "Generated SQL:" :: statement.shown
  | count counting => "Count SQL:" :: counting.shown
  | page counting fetching =>
    "Count SQL:" :: counting.shown ++ "" :: "Generated SQL:" :: fetching.shown

theorem Report.statement_eq (s : Statement) : Report.statement s = s.shown := by
  obtain ⟨sql, - | ⟨first, rest⟩⟩ := s
  · rfl
  · refine congrArg (sql :: "Bindings:" :: ·) ?_
    rw [List.mapIdx_eq_zipIdx_map, List.zipIdx_succ, List.map_map]
    rfl

namespace Cli

variable {σ : Type}

namespace SelectOptions

open Querier

/-- The way to run the querier of the options. -/
def way (o : SelectOptions) : Querier.Way :=
  match o.page with
  | some page => .page page o.size
  | none => .query

/-- The querier of options is new, and it is on the page that is asked for. -/
structure Fresh (o : SelectOptions) (q : Querier) : Prop where
  coherent : q.Coherent
  paged : ∀ page, o.page = some page → q.paginate page o.size = q

theorem fresh_querier {o : SelectOptions} {q : Querier} (made : o.querier = .ok q) :
    o.Fresh q := by
  unfold querier at made
  obtain ⟨filter, -, made⟩ := bind_eq_ok_iff.mp made
  obtain ⟨having, -, made⟩ := bind_eq_ok_iff.mp made
  cases asked : o.page with
  | none =>
    rw [asked] at made
    cases made
    refine ⟨coherent_of_memo rfl, fun page paged => ?_⟩
    rw [asked] at paged
    cases paged
  | some number =>
    rw [asked] at made
    cases made
    refine ⟨coherent_of_memo rfl, fun page paged => ?_⟩
    rw [asked] at paged
    cases paged
    rfl

/-- A dry run shows the request of the options. -/
theorem preview_eq {o : SelectOptions} {q : Querier} (fresh : o.Fresh q) :
    o.preview q = (o.way.request q).map Request.shown := by
  have built : q.build.1 = q.query.statement := build_of_coherent fresh.coherent
  unfold preview way
  rw [built]
  cases asked : o.page with
  | none =>
    dsimp only [Way.request]
    rcases q.query.statement with e | fetching
    · rfl
    · refine congrArg Except.ok ?_
      rw [Report.statement_eq]
      rfl
  | some page =>
    dsimp only [Way.request]
    rw [fresh.paged page asked, ← countStatement]
    rcases q.countStatement with e | counting
    · rfl
    · rcases q.query.statement with e | fetching
      · rfl
      · refine congrArg Except.ok ?_
        simp [Request.shown, Report.statement_eq]

theorem asks_fetch (o : SelectOptions) (executor : Executor σ) {q : Querier}
    (coherent : q.Coherent) : Asks executor ((o.fetch executor).outcome q) (o.way.request q) := by
  unfold fetch way
  cases o.page with
  | none => exact asks_runQuery executor coherent
  | some page => exact asks_runPage executor q page o.size

end SelectOptions

theorem Task.ofExcept_apply {α : Type} (outcome : Except Failure α) (state : σ) :
    (Task.ofExcept outcome : Task σ α) state = (outcome, state) := rfl

theorem Task.ofState_apply {α β : Type} (run : StateM σ (Except Error α × β)) (state : σ) :
    Task.ofState run state = (plainly (run state).1.1, (run state).2) := rfl

theorem plainly_eq {α : Type} (outcome : Except Error α) :
    plainly outcome = outcome.mapError (.failed []) := by
  cases outcome <;> rfl

/-- What the options ask of an executor. -/
def SelectOptions.asked (o : SelectOptions) : Except Failure Request :=
  o.querier.bind fun q => plainly (o.way.request q)

/-- A dry run shows what is asked and leaves the executors alone. -/
theorem select_of_dryRun (connect : String → PoolSettings → Run σ (Executor σ)) (config : Config)
    {o : SelectOptions} (dry : o.dryRun = true) (state : σ) :
    select connect config o state = (o.asked.map Request.shown, state) := by
  rw [select, bind_apply, Task.ofExcept_apply, SelectOptions.asked]
  cases made : o.querier with
  | error failure => rfl
  | ok q =>
    dsimp only
    rw [dry, Bool.true_or, if_pos rfl, bind_apply, Task.ofExcept_apply, Except.bind,
      SelectOptions.preview_eq (SelectOptions.fresh_querier made)]
    rcases o.way.request q with e | request <;> rfl

/-- Connects to one executor, whatever the database. -/
def connectTo (executor : Executor σ) : String → PoolSettings → Run σ (Executor σ) :=
  fun _ _ => pure executor

/-- A run whose database is known fetches and reports. -/
theorem select_of_known {config : Config} {o : SelectOptions} (real : o.dryRun = false)
    (known : (config.database? o.database).isSome = true) (executor : Executor σ) :
    select (connectTo executor) config o =
      match o.querier with
      | .error failure => fun state => (.error failure, state)
      | .ok q => fun state =>
        ((((o.fetch executor).outcome q state).1.mapError (.failed [])).bind o.report,
          ((o.fetch executor).outcome q state).2) := by
  funext state
  rw [select, bind_apply, Task.ofExcept_apply]
  rcases o.querier with failure | q
  · rfl
  · obtain ⟨d, found⟩ := Option.isSome_iff_exists.mp known
    let registry := Registry.ofConfig (connectTo executor) config
    have looked : registry.lookUp o.database = pure executor :=
      Registry.lookUp_ofConfig _ state found
    have connected : (registry.get o.database state).1.1 = .ok executor :=
      congrArg (fun run => (run state).1) looked
    have untouched : (registry.get o.database state).2 = state :=
      congrArg (fun run => (run state).2) looked
    dsimp only
    rw [real, known, Bool.not_true, Bool.or_false, if_neg Bool.false_ne_true, bind_apply,
      Task.ofState_apply, connected, untouched, plainly]
    dsimp only
    rw [bind_apply, Task.ofState_apply, ← plainly_eq, Terminal.outcome]
    rcases (Querier.run (o.fetch executor) q state).1.1 with e | result <;> rfl

/-- A run asks for what a dry run shows. -/
theorem SelectOptions.asks_select {config : Config} {o : SelectOptions} (real : o.dryRun = false)
    (known : (config.database? o.database).isSome = true) (executor : Executor σ) :
    Asks executor (select (connectTo executor) config o) o.asked := by
  rw [select_of_known real known, SelectOptions.asked]
  cases made : o.querier with
  | error failure => exact .refused fun _ => rfl
  | ok q =>
    rw [Except.bind, plainly_eq]
    exact ((asks_fetch o executor (fresh_querier made).coherent).mapError _).bind o.report

theorem SelectOptions.exists_request {o : SelectOptions} {request : Request}
    (asked : o.asked = .ok request) : ∃ q, o.way.request q = .ok request := by
  obtain ⟨q, -, asked⟩ := bind_eq_ok_iff.mp asked
  refine ⟨q, ?_⟩
  cases made : o.way.request q <;> rw [made] at asked <;> cases asked
  rfl

/-- The request of a page counts, any other only fetches. -/
theorem SelectOptions.isSome_page_iff {o : SelectOptions} {request : Request}
    (asked : o.asked = .ok request) :
    o.page.isSome = true ↔ ∃ counting fetching, request = .page counting fetching := by
  obtain ⟨q, made⟩ := exists_request asked
  unfold way at made
  cases paged : o.page with
  | none =>
    rw [paged] at made
    obtain ⟨fetching, -, rfl⟩ := map_eq_ok_iff.mp made
    simp
  | some page =>
    rw [paged] at made
    obtain ⟨counting, -, made⟩ := bind_eq_ok_iff.mp made
    obtain ⟨fetching, -, made⟩ := bind_eq_ok_iff.mp made
    cases made
    simp

/-- A dry run sends nothing to an executor. It fails exactly when the run itself fails before it
sends anything, with the same failure. Otherwise it shows the statements that the run itself sends,
all of them where the executor answers, whatever becomes of the answer: one that counts and one that
fetches if a page is asked for, and else only one that fetches. -/
theorem dry_run_shows_run {config : Config} {o : SelectOptions}
    (known : (config.database? o.database).isSome = true)
    {executor : Executor (σ × List Statement)} (journals : executor.Journals) (state : σ)
    (noted : List Statement) :
    ∃ outcome, select (connectTo executor) config { o with dryRun := true } (state, noted) =
        (outcome, (state, noted)) ∧
      (∀ failure, outcome = .error failure ↔ ∃ state',
        select (connectTo executor) config { o with dryRun := false } (state, noted) =
          (.error failure, (state', noted))) ∧
      ∀ lines, outcome = .ok lines → ∃ request : Request, lines = request.shown ∧
        (o.page.isSome = true ↔ ∃ counting fetching, request = .page counting fetching) ∧
        ∃ result state' ran,
          select (connectTo executor) config { o with dryRun := false } (state, noted) =
            (result, (state', noted ++ ran)) ∧
          ran <+: request.statements ∧
          (executor.answers (state, noted) request = true → ran = request.statements) ∧
          (result.isOk = true → executor.answers (state, noted) request = true) := by
  have dry := select_of_dryRun (connectTo executor) config
    (o := { o with dryRun := true }) rfl (state, noted)
  have asks := SelectOptions.asks_select (o := { o with dryRun := false }) rfl known executor
  have same (dryRun : Bool) : SelectOptions.asked { o with dryRun } = o.asked := rfl
  have paged request : o.asked = .ok request → _ := SelectOptions.isSome_page_iff
  rw [same] at dry asks
  generalize o.asked = asked at dry asks paged
  cases asks with
  | refused fails =>
    refine ⟨_, dry, fun other => ⟨?_, ?_⟩, nofun⟩
    · rintro ⟨⟩
      exact ⟨state, fails (state, noted)⟩
    · rintro ⟨state', ran⟩
      cases (fails (state, noted)).symm.trans ran
      rfl
  | @served request left answered =>
    obtain ⟨ran, noting, some, first, whole⟩ := journals.serve request state noted
    rw [← left] at noting
    refine ⟨_, dry, fun other => ⟨nofun, ?_⟩, ?_⟩
    · -- Something is sent, so the run does not fail before.
      rintro ⟨state', failed⟩
      rw [failed] at noting
      exact absurd (List.self_eq_append_right.mp noting) some
    · rintro _ ⟨⟩
      exact ⟨request, rfl, paged _ rfl, _, _, ran, Prod.ext rfl (Prod.ext rfl noting), first, whole,
        answered _⟩

/-- For a page of users, the two statements that are shown are sent. A filter without its closing
brace keeps the run from sending anything. -/
theorem dry_run_shows_run_users :
    let executor : Executor (Unit × List Statement) := .plain (fun _ => pure {}) (fun _ => pure {})
    let config : Config := { databases := [{ name := "default", dsn := "x" }] }
    (∃ request : Request, request.shown = ["Count SQL:",
        "SELECT COUNT(0) FROM ( SELECT * FROM `users` ) a", "", "Generated SQL:",
        "SELECT * FROM `users` LIMIT 10, 10"] ∧
      (select (connectTo executor) config { table := "users", page := some 2, size := 10 }
        ((), [])).2.2 = request.statements) ∧
    ∃ state', select (connectTo executor) config { table := "users", filter := some "\x7b" }
        ((), []) = (.error (.failed ["invalid --where"] .jsonSyntax), (state', [])) := by
  have paged : SelectOptions.asked { table := "users", page := some 2, size := 10 } =
      .ok (.page ⟨"SELECT COUNT(0) FROM ( SELECT * FROM `users` ) a", []⟩
        ⟨"SELECT * FROM `users` LIMIT 10, 10", []⟩) := by rfl
  have refused : SelectOptions.asked { table := "users", filter := some "\x7b" } =
      .error (.failed ["invalid --where"] .jsonSyntax) := by rfl
  intro executor config
  have journals : executor.Journals := .plain _ _
  have known : (config.database? "default").isSome = true := by decide
  constructor
  · obtain ⟨outcome, dry, -, shows⟩ :=
      dry_run_shows_run (o := { table := "users", page := some 2, size := 10 }) known journals () []
    rw [select_of_dryRun _ _ rfl] at dry
    have lines : outcome = .ok _ :=
      (congrArg Prod.fst dry).symm.trans (congrArg (Except.map Request.shown) paged)
    obtain ⟨request, same, -, result, state', ran, sent, -, whole, answered⟩ := shows _ lines
    have succeeds : (select (connectTo executor) config
        { table := "users", page := some 2, size := 10 } ((), [])).1.isOk = true := by rfl
    rw [sent] at succeeds
    refine ⟨request, same.symm, ?_⟩
    rw [sent]
    exact whole (answered succeeds)
  · obtain ⟨outcome, dry, fails, -⟩ :=
      dry_run_shows_run (o := { table := "users", filter := some "\x7b" }) known journals () []
    rw [select_of_dryRun _ _ rfl] at dry
    have failure : outcome = .error _ :=
      (congrArg Prod.fst dry).symm.trans (congrArg (Except.map Request.shown) refused)
    exact (fails _).mp failure

end Cli

end Clausal
