import Clausal.Proofs.Condition.Modes
import Clausal.Proofs.Select.Count
import Clausal.Proofs.Template.Statement
import Clausal.Proofs.Text.Numeral
/-!
# Both modes of a selection

A selection becomes a template clause by clause, as it becomes a statement: the conditions bring
slots along, everything else is text. Fetching and counting in either mode are renderings of it, so
the modes fail alike, and otherwise placeholders and values stay aligned, those of the filter before
those of the condition on groups.
-/

namespace Clausal

/-- Joins are text. -/
theorem Join.params_clauses {joins : List Join} {f : Fragment} (made : clauses joins = .ok f) :
    f.params = [] := by
  induction joins generalizing f with
  | nil =>
    cases made
    rfl
  | cons j rest ih =>
    rw [clauses] at made
    obtain ⟨first, here, made⟩ := bind_eq_ok_iff.mp made
    obtain ⟨others, later, joined⟩ := bind_eq_ok_iff.mp made
    cases joined
    have text : first.params = [] := by
      unfold clause at here
      split at here
      · cases here
      · cases here
        rfl
    rw [Fragment.params_append, text, ih later]
    rfl

/-- A count is text around what it counts. -/
theorem Fragment.counting_toStatement (f : Fragment) : f.toStatement.counting =
    (.ofText "SELECT COUNT(0) FROM ( " ++ f ++ .ofText " ) a" : Fragment).toStatement := by
  have values : (.ofText "SELECT COUNT(0) FROM ( " ++ f ++ .ofText " ) a" : Fragment).params =
      f.params :=
    List.append_nil _
  unfold toStatement Statement.counting
  rw [values]
  rfl

namespace Selection

/-! ## The template of a selection -/

/-- A condition after its keyword. -/
def conditionTemplate (hooks : Hooks) (keyword : String) :
    Option Condition → Except Error Template
  | none => .ok []
  | some condition => do
    let predicate ← condition.template hooks .and
    return if predicate.isEmpty then [] else .ofText keyword ++ predicate

/-- The grouping and its condition. -/
def groupTemplate (s : Selection) : Except Error Template :=
  if Text.isBlankString s.groupBy then .ok []
  else do
    let having ← conditionTemplate s.rendering.hooks " HAVING " s.having
    return .ofText (" GROUP BY " ++ Text.trimmed s.groupBy) ++ having

/-- All clauses that decide which rows there are. -/
def rowsTemplate (s : Selection) : Except Error Template :=
  if Text.isBlankString s.table then .error .noTable
  else do
    let joins ← Join.clauses s.joins
    let filter ← conditionTemplate s.rendering.hooks " WHERE " s.filter
    let groups ← s.groupTemplate
    return .ofText ("SELECT " ++ s.columnList ++ " FROM " ++
      Identifier.quoteTable (Text.trimmed s.table) ++ joins.sql) ++ filter ++ groups

/-- The statement that fetches the rows. -/
def template (s : Selection) : Except Error Template :=
  s.rowsTemplate.map fun rows => rows ++ .ofText s.tail

/-- The statement that counts the rows. -/
def countTemplate (s : Selection) : Except Error Template :=
  s.rowsTemplate.map fun rows => .ofText "SELECT COUNT(0) FROM ( " ++ rows ++ .ofText " ) a"

/-! ## Statements are renderings -/

theorem conditionClause_eq_render (r : Rendering) (keyword : String)
    (condition : Option Condition) : conditionClause r keyword condition =
      (conditionTemplate r.hooks keyword condition).map (Template.render r.mode) := by
  cases condition with
  | none => rfl
  | some condition =>
    have compiled := condition.compile_eq_render r.hooks r.mode .and
    rw [conditionClause, conditionTemplate, compiled]
    cases condition.template r.hooks .and with
    | error e => rfl
    | ok predicate =>
      refine congrArg Except.ok ?_
      rw [apply_ite (Template.render r.mode), Template.render_append, Template.render_ofText,
        Template.isEmpty_render]
      rfl

theorem groupClause_eq_render (s : Selection) :
    s.groupClause = s.groupTemplate.map (Template.render s.rendering.mode) := by
  unfold groupClause groupTemplate
  split
  · rfl
  · rw [conditionClause_eq_render]
    cases conditionTemplate s.rendering.hooks " HAVING " s.having with
    | error e => rfl
    | ok having =>
      refine congrArg Except.ok ?_
      rw [Template.render_append, Template.render_ofText]

theorem rows_eq_render (s : Selection) :
    s.rows = s.rowsTemplate.map (Template.render s.rendering.mode) := by
  unfold rows rowsTemplate
  split
  · rfl
  -- Both run the same steps in the same order, so the first to fail is the same.
  · rw [conditionClause_eq_render, groupClause_eq_render]
    cases joined : Join.clauses s.joins with
    | error e => rfl
    | ok joins =>
      cases conditionTemplate s.rendering.hooks " WHERE " s.filter with
      | error e => rfl
      | ok filter =>
        cases s.groupTemplate with
        | error e => rfl
        | ok groups =>
          have head (text : String) :
              Fragment.ofText text ++ joins = .ofText (text ++ joins.sql) := by
            refine Fragment.ext rfl ?_
            rw [Fragment.params_append, Join.params_clauses joined]
            rfl
          refine congrArg Except.ok ?_
          rw [head, Template.render_append, Template.render_append, Template.render_ofText]

theorem statement_eq_template (s : Selection) :
    s.statement = Template.statement s.rendering.mode s.template := by
  rw [statement_eq, rows_eq_render, template]
  cases s.rowsTemplate with
  | error e => rfl
  | ok rows =>
    have text : s.orderClause ++ s.limitClause = .ofText s.tail :=
      Fragment.ext s.sql_tail (by
        rw [Fragment.params_append, params_orderClause, params_limitClause]
        rfl)
    refine congrArg (Except.ok ∘ Fragment.toStatement) ?_
    rw [Fragment.append_assoc, text, Template.render_append, Template.render_ofText]

theorem countStatement_eq_template (s : Selection) :
    s.countStatement = Template.statement s.rendering.mode s.countTemplate := by
  rw [countStatement_eq, rows_eq_render, countTemplate]
  cases s.rowsTemplate with
  | error e => rfl
  | ok rows =>
    refine congrArg Except.ok ?_
    dsimp only
    rw [Fragment.counting_toStatement, Template.render_append, Template.render_append,
      Template.render_ofText, Template.render_ofText]

/-! ## Values -/

/-- The values of the rows are those of the filter, then those of the condition on groups. -/
theorem params_rows {s : Selection} {rows : Fragment} (made : s.rows = .ok rows) :
    ∃ filter groups, conditionClause s.rendering " WHERE " s.filter = .ok filter ∧
      s.groupClause = .ok groups ∧ rows.params = filter.params ++ groups.params := by
  unfold Selection.rows at made
  split at made
  · cases made
  · obtain ⟨joins, joined, made⟩ := bind_eq_ok_iff.mp made
    obtain ⟨filter, filtered, made⟩ := bind_eq_ok_iff.mp made
    obtain ⟨groups, grouped, made⟩ := bind_eq_ok_iff.mp made
    cases made
    refine ⟨filter, groups, filtered, grouped, ?_⟩
    simp [Join.params_clauses joined]

/-! ## Selections without question marks of their own -/

end Selection

/-- A join brings no question mark into the text. -/
structure Join.Unmarked (j : Join) : Prop where
  keywords : '?' ∉ j.kind.keywords.toList
  table : '?' ∉ j.table.toList
  on : '?' ∉ j.on.toList

/-- A selection brings no question mark into the text except for the values of its conditions. -/
structure Selection.Unmarked (s : Selection) : Prop where
  columns : '?' ∉ s.columns.toList
  table : '?' ∉ s.table.toList
  joins : ∀ j ∈ s.joins, j.Unmarked
  filter : ∀ c ∈ s.filter, c.Unmarked s.rendering.hooks
  groupBy : '?' ∉ s.groupBy.toList
  having : ∀ c ∈ s.having, c.Unmarked s.rendering.hooks
  orderBy : '?' ∉ s.orderBy.toList

theorem Identifier.unmarked_quoteTable {table : String} (absent : '?' ∉ table.toList) :
    '?' ∉ (quoteTable (Text.trimmed table)).toList := by
  intro mem
  rcases mem_quoteTable mem with dot | tick | blank | inside
  · cases dot
  · cases tick
  · cases blank
  · exact absent (Text.mem_of_mem_trimmed inside)

theorem Join.unmarked_clauses {joins : List Join} (unmarked : ∀ j ∈ joins, j.Unmarked)
    {f : Fragment} (made : clauses joins = .ok f) : '?' ∉ f.sql.toList := by
  induction joins generalizing f with
  | nil =>
    cases made
    simp
  | cons j rest ih =>
    rw [List.forall_mem_cons] at unmarked
    rw [clauses] at made
    obtain ⟨first, here, made⟩ := bind_eq_ok_iff.mp made
    obtain ⟨others, later, joined⟩ := bind_eq_ok_iff.mp made
    cases joined
    have absent : '?' ∉ first.sql.toList := by
      unfold clause at here
      split at here
      · cases here
      · cases here
        have table := Identifier.unmarked_quoteTable unmarked.1.table
        have on : '?' ∉ (Text.trimmed j.on).toList := fun mem =>
          unmarked.1.on (Text.mem_of_mem_trimmed mem)
        have keywords := unmarked.1.keywords
        simp only [Fragment.sql_ofText]
        split <;> simp [table, on, keywords]
    rw [Fragment.sql_append, String.toList_append, List.mem_append, not_or]
    exact ⟨absent, ih unmarked.2 later⟩

namespace Selection

theorem unmarked_conditionTemplate {hooks : Hooks} {keyword : String}
    {condition : Option Condition} (between : '?' ∉ keyword.toList)
    (unmarked : ∀ c ∈ condition, c.Unmarked hooks) {t : Template}
    (made : conditionTemplate hooks keyword condition = .ok t) : t.Unmarked := by
  cases condition with
  | none =>
    cases made
    exact Template.unmarked_nil
  | some condition =>
    rw [conditionTemplate] at made
    obtain ⟨predicate, compiled, written⟩ := bind_eq_ok_iff.mp made
    cases written
    have inside := Condition.unmarked_template (unmarked condition rfl) compiled
    split
    · exact Template.unmarked_nil
    · exact (Template.unmarked_ofText between).append inside

theorem Unmarked.groupTemplate {s : Selection} (unmarked : s.Unmarked) {t : Template}
    (made : s.groupTemplate = .ok t) : t.Unmarked := by
  unfold Selection.groupTemplate at made
  split at made
  · cases made
    exact Template.unmarked_nil
  · obtain ⟨having, compiled, grouped⟩ := bind_eq_ok_iff.mp made
    cases grouped
    have grouping : '?' ∉ (Text.trimmed s.groupBy).toList := fun mem =>
      unmarked.groupBy (Text.mem_of_mem_trimmed mem)
    refine (Template.unmarked_ofText ?_).append
      (unmarked_conditionTemplate (by decide) unmarked.having compiled)
    simp [grouping]

theorem Unmarked.columnList {s : Selection} (unmarked : s.Unmarked) :
    '?' ∉ s.columnList.toList := by
  unfold Selection.columnList
  split
  · decide
  · exact fun mem => unmarked.columns (Text.mem_of_mem_trimmed mem)

theorem Unmarked.rowsTemplate {s : Selection} (unmarked : s.Unmarked) {t : Template}
    (made : s.rowsTemplate = .ok t) : t.Unmarked := by
  unfold Selection.rowsTemplate at made
  split at made
  · cases made
  · obtain ⟨joins, joined, made⟩ := bind_eq_ok_iff.mp made
    obtain ⟨filter, filtered, made⟩ := bind_eq_ok_iff.mp made
    obtain ⟨groups, grouped, made⟩ := bind_eq_ok_iff.mp made
    cases made
    have columns := unmarked.columnList
    have table := Identifier.unmarked_quoteTable unmarked.table
    have others := Join.unmarked_clauses unmarked.joins joined
    refine ((Template.unmarked_ofText ?_).append
      (unmarked_conditionTemplate (by decide) unmarked.filter filtered)).append
      (unmarked.groupTemplate grouped)
    simp [columns, table, others]

/-- Order and limit are text of the selection and digits. -/
theorem Unmarked.tail {s : Selection} (unmarked : s.Unmarked) : '?' ∉ s.tail.toList := by
  have digits (n : Nat) : '?' ∉ (toString n).toList := by
    rw [Text.toList_toString]
    intro mem
    cases Text.isDigit_toDigits n '?' mem
  have order : '?' ∉ (Text.trimmed s.orderBy).toList := fun mem =>
    unmarked.orderBy (Text.mem_of_mem_trimmed mem)
  rw [Selection.tail, String.toList_append, List.mem_append, not_or]
  constructor
  · split
    · simp
    · simp [order]
  · split
    · simp
    · simp only [String.toList_append, List.mem_append, digits]
      decide

theorem Unmarked.template {s : Selection} (unmarked : s.Unmarked) {t : Template}
    (made : s.template = .ok t) : t.Unmarked := by
  obtain ⟨rows, inner, rfl⟩ := map_eq_ok_iff.mp made
  exact (unmarked.rowsTemplate inner).append (Template.unmarked_ofText unmarked.tail)

theorem Unmarked.countTemplate {s : Selection} (unmarked : s.Unmarked) {t : Template}
    (made : s.countTemplate = .ok t) : t.Unmarked := by
  obtain ⟨rows, inner, rfl⟩ := map_eq_ok_iff.mp made
  exact ((Template.unmarked_ofText (by decide)).append (unmarked.rowsTemplate inner)).append
    (Template.unmarked_ofText (by decide))

end Selection

namespace Querier

/-! ## Queriers in both modes -/

/-- Whether a setting is not the one to parameters. -/
def Setting.keepsMode (s : Setting) : Bool :=
  s.slot != .mode

/-- Whether a call does not turn to parameters. Only one does. -/
def Call.keepsMode {σ : Type} (call : Call σ) : Bool :=
  call.settings.all Setting.keepsMode

theorem mode_write {s : Setting} (keeps : s.keepsMode = true) (q : Querier) :
    (s.write q).query.selection.rendering.mode = q.query.selection.rendering.mode := by
  cases s with
  | parameterized => cases keeps
  | _ => rfl

/-- A querier that is made for a selection fetches and counts its template, in its mode. -/
theorem build_eq_template {q : Querier} (coherent : q.Coherent) (plain : q.isGiven = false) :
    q.build.1 =
      Template.statement q.query.selection.rendering.mode q.query.selection.template := by
  rw [build_of_coherent coherent, statement_of_plain plain, Selection.statement_eq_template]

theorem countStatement_eq_template {q : Querier} (plain : q.isGiven = false) :
    q.countStatement =
      Template.statement q.query.selection.rendering.mode q.query.selection.countTemplate := by
  rw [countStatement_of_plain plain, Selection.countStatement_eq_template]

/-- Turned to parameters, a querier fetches its template with parameters. -/
theorem aligned_build {q : Querier} (coherent : q.Coherent) (plain : q.isGiven = false)
    (inline : q.query.selection.rendering.mode = .inline) :
    Template.Aligned q.query.selection.template q.build.1 q.parameterized.build.1 := by
  have turned : q.parameterized.Coherent := coherent_of_memo rfl
  have plain' : q.parameterized.isGiven = false := plain
  rw [build_eq_template coherent plain, build_eq_template turned plain', inline]
  exact Template.aligned_statement q.query.selection.template

/-- It counts its template with parameters, too. -/
theorem aligned_countStatement {q : Querier} (plain : q.isGiven = false)
    (inline : q.query.selection.rendering.mode = .inline) :
    Template.Aligned q.query.selection.countTemplate q.countStatement
      q.parameterized.countStatement := by
  have plain' : q.parameterized.isGiven = false := plain
  rw [countStatement_eq_template plain, countStatement_eq_template plain', inline]
  exact Template.aligned_statement q.query.selection.countTemplate

/-- Both statements have the values of the filter, then those of the condition on groups. -/
theorem params_of_made {q : Querier} (coherent : q.Coherent) (plain : q.isGiven = false)
    {made : Statement} (either : q.build.1 = .ok made ∨ q.countStatement = .ok made) :
    ∃ filter groups, Selection.conditionClause q.query.selection.rendering " WHERE "
        q.query.selection.filter = .ok filter ∧
      q.query.selection.groupClause = .ok groups ∧
      made.params = filter.params ++ groups.params := by
  rw [build_of_coherent coherent, statement_of_plain plain, countStatement_of_plain plain] at either
  rcases q.query.selection.statements_eq with
    ⟨e, -, counting, fetching⟩ | ⟨rows, found, counting, fetching⟩
  · rw [counting, fetching] at either
    rcases either with fetched | counted
    · cases fetched
    · cases counted
  · obtain ⟨filter, groups, filtered, grouped, params⟩ := Selection.params_rows found
    refine ⟨filter, groups, filtered, grouped, ?_⟩
    rw [counting, fetching] at either
    rcases either with fetched | counted
    · cases fetched
      exact params
    · cases counted
      exact params

/-- Any calls that leave the mode alone are followed by a build and a count without and with
parameters. Each of the two fails with the same error both times, or the same template is in both
statements, with literals in the one and placeholders and values in the other. The values are those
of the filter, then those of the condition on groups. Where the selection has no question mark of
its own, the question marks of the text are the placeholders. -/
theorem build_parameterized {σ : Type} (calls : List (Call σ))
    (literal : ∀ call ∈ calls, call.keepsMode = true) (state : σ) :
    ∃ q state', performAll calls (Origin.selection.querier, state) = (q, state') ∧
      Template.Aligned q.query.selection.template q.build.1 q.parameterized.build.1 ∧
      Template.Aligned q.query.selection.countTemplate q.countStatement
        q.parameterized.countStatement ∧
      (∀ bound, q.parameterized.build.1 = .ok bound ∨ q.parameterized.countStatement = .ok bound →
        ∃ filter groups,
          Selection.conditionClause q.parameterized.query.selection.rendering " WHERE "
            q.query.selection.filter = .ok filter ∧
          q.parameterized.query.selection.groupClause = .ok groups ∧
          bound.params = filter.params ++ groups.params) ∧
      (q.query.selection.Unmarked →
        (∀ written bound, q.build.1 = .ok written → q.parameterized.build.1 = .ok bound →
          bound.Marks written) ∧
        ∀ written bound, q.countStatement = .ok written →
          q.parameterized.countStatement = .ok bound → bound.Marks written) := by
  have reached := follows_performAll calls Origin.selection.coherent state
  generalize performAll calls (Origin.selection.querier, state) = ended at reached ⊢
  obtain ⟨q, state'⟩ := ended
  have plain := plain_of_follows reached
  have inline : q.query.selection.rendering.mode = .inline := by
    have kept : (calls.flatMap Call.settings).all Setting.keepsMode = true := by
      rw [List.all_flatMap, List.all_eq_true]
      exact literal
    rw [reached.query]
    exact write_preserves (·.query.selection.rendering.mode) (fun _ => mode_write) kept
      Origin.selection.querier
  have fetching := aligned_build reached.coherent plain inline
  have counting := aligned_countStatement plain inline
  refine ⟨q, state', rfl, fetching, counting, ?_, ?_⟩
  · intro bound made
    have turned : q.parameterized.Coherent := coherent_of_memo rfl
    exact params_of_made turned plain made
  · intro unmarked
    exact ⟨fun _ _ => fetching.marks fun _ => unmarked.template,
      fun _ _ => counting.marks fun _ => unmarked.countTemplate⟩

/-- With a grouping, the values of both conditions are bound. -/
theorem build_parameterized_groups :
    ∃ (q : Querier) (state' : List Statement),
      performAll [.set (.table "users"), .set (.having (.field "n <" (.int 9))),
        .set (.filter (.field "id >" (.int 5))), .set (.groupBy "city"), .build]
        (Origin.selection.querier, []) = (q, state') ∧
      q.query.selection.Unmarked ∧
      ∃ written bound, q.build.1 = .ok written ∧ q.parameterized.build.1 = .ok bound ∧
        written.sql = "SELECT * FROM `users` WHERE `id` > 5 GROUP BY city HAVING `n` < 9" ∧
        bound.params = [.int 5, .int 9] ∧ bound.Marks written := by
  obtain ⟨q, state', reached, -, -, -, marks⟩ := build_parameterized
    [.set (.table "users"), .set (.having (.field "n <" (.int 9))),
      .set (.filter (.field "id >" (.int 5))), .set (.groupBy "city"), .build] (by decide)
    ([] : List Statement)
  cases reached
  have filter : (Condition.field "id >" (.int 5)).Unmarked .empty :=
    Condition.unmarked_field ⟨"id", .greater⟩ (.int 5) rfl rfl (by decide) (by decide)
  have having : (Condition.field "n <" (.int 9)).Unmarked .empty :=
    Condition.unmarked_field ⟨"n", .less⟩ (.int 9) rfl rfl (by decide) (by decide)
  have unmarked : Selection.Unmarked {
      table := "users", filter := some (.field "id >" (.int 5)), groupBy := "city",
      having := some (.field "n <" (.int 9)) } := by
    refine ⟨by decide, by decide, by simp, ?_, by decide, ?_, by decide⟩
    · rintro c (_ | _)
      exact filter
    · rintro c (_ | _)
      exact having
  exact ⟨_, _, rfl, unmarked, _, _, rfl, rfl, rfl, rfl, (marks unmarked).1 _ _ rfl rfl⟩

end Querier

end Clausal
