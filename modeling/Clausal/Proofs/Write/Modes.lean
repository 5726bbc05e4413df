import Clausal.Proofs.Condition.Modes
import Clausal.Proofs.Template.Statement
import Clausal.Proofs.Write.Call
/-!
# Both modes of a write

A call that writes becomes a template: every value of a record leaves a slot, in the rows as in the
assignments, and the condition brings its own. The checks never look at the mode, so both modes
refuse alike, and otherwise placeholders and values stay aligned. The predicate of a change is
compiled first and bound last, where its text stands.
-/

namespace Clausal

/-! ## Slots of assembled templates -/

namespace Template

theorem values_append (a b : Template) : values (a ++ b) = values a ++ values b := by
  induction a with
  | nil => rfl
  | cons piece rest ih =>
    cases piece with
    | text s => exact ih
    | slot v => exact congrArg (v :: ·) ih

theorem values_intercalate (separator : String) (parts : List Template) :
    values (intercalate separator parts) = parts.flatMap values := by
  induction parts with
  | nil => rfl
  | cons t rest ih =>
    cases rest with
    | nil => simp [intercalate]
    | cons next others =>
      rw [intercalate, values_append, values_append, ih]
      · simp [ofText, values]
      · simp

end Template

/-! ## The template of a call -/

namespace Write

/-- A value of a record, after the hook of its column. -/
def valueTemplate (hooks : Hooks) (entry : String × SqlValue) : Template :=
  [.slot (hooks.apply entry.1 entry.2)]

def rowTemplate (hooks : Hooks) (r : Record) : Template :=
  .ofText "(" ++ Template.intercalate ", " (r.entries.map (valueTemplate hooks)) ++ .ofText ")"

def rowsTemplate (table : String) (hooks : Hooks) (verb : String) (records : List Record) :
    Template :=
  .ofText (verb ++ " " ++ Identifier.quote (Text.trimmed table) ++ " (" ++
      String.intercalate ", " ((insertBatch records).columns.map Identifier.quote) ++
      ") VALUES ") ++
    Template.intercalate ", " (records.map (rowTemplate hooks))

def assignmentTemplate (hooks : Hooks) (entry : String × SqlValue) : Template :=
  .ofText (Identifier.quote entry.1 ++ " = ") ++ valueTemplate hooks entry

/-- What stands before the WHERE of the condition. -/
def headTemplate (table : String) (hooks : Hooks) : Write → Template
  | insert r => rowsTemplate table hooks "INSERT INTO" [r]
  | insertBatch records => rowsTemplate table hooks "INSERT INTO" records
  | replaceInto records => rowsTemplate table hooks "REPLACE INTO" records
  | update changes _ =>
    .ofText ("UPDATE " ++ Identifier.quote (Text.trimmed table) ++ " SET ") ++
      Template.intercalate ", " (changes.entries.map (assignmentTemplate hooks))
  | delete _ => .ofText ("DELETE FROM " ++ Identifier.quote (Text.trimmed table))

/-- The predicate of a condition, which must say something. -/
def predicateTemplate (hooks : Hooks) (c : Condition) : Except Error Template := do
  let predicate ← c.template hooks .and
  if predicate.isEmpty then .error .emptyCondition else return predicate

/-- The statement of a call, if it is not refused. -/
def template (table : String) (hooks : Hooks) (w : Write) : Except Error Template :=
  match w.refusal? table with
  | some e => .error e
  | none =>
    match w.condition? with
    | none => .ok (w.headTemplate table hooks)
    | some c => (predicateTemplate hooks c).map fun predicate =>
      w.headTemplate table hooks ++ .ofText " WHERE " ++ predicate

theorem values_rowTemplate (hooks : Hooks) (r : Record) : (rowTemplate hooks r).values =
    r.entries.map fun (column, v) => hooks.apply column v := by
  rw [rowTemplate, Template.values_append, Template.values_append, Template.values_intercalate,
    List.flatMap_map]
  simp [Template.ofText, Template.values, valueTemplate, List.map_eq_flatMap]

theorem values_rowsTemplate (table : String) (hooks : Hooks) (verb : String)
    (records : List Record) : (rowsTemplate table hooks verb records).values =
      (insertBatch records).values hooks := by
  rw [rowsTemplate, Template.values_append, Template.values_intercalate, List.flatMap_map]
  simp only [values_rowTemplate]
  rfl

theorem values_assignmentTemplate (hooks : Hooks) (entry : String × SqlValue) :
    (assignmentTemplate hooks entry).values = [hooks.apply entry.1 entry.2] := by
  rw [assignmentTemplate, Template.values_append]
  rfl

/-- The slots before the condition are the values of the call, in order. -/
theorem values_headTemplate (table : String) (hooks : Hooks) (w : Write) :
    (w.headTemplate table hooks).values = w.values hooks := by
  cases w with
  | insert r => exact values_rowsTemplate table hooks "INSERT INTO" [r]
  | insertBatch records => exact values_rowsTemplate table hooks "INSERT INTO" records
  | replaceInto records => exact values_rowsTemplate table hooks "REPLACE INTO" records
  | update changes c =>
    rw [headTemplate, Template.values_append, Template.values_intercalate, List.flatMap_map]
    simp only [values_assignmentTemplate]
    simp [Template.ofText, Template.values, values, records, List.map_eq_flatMap]
  | delete c => rfl

end Write

/-! ## Writing is rendering -/

namespace Mutation

variable (table : String) (hooks : Hooks) (mode : Mode)

theorem value_eq_render (entry : String × SqlValue) :
    value ⟨table, ⟨hooks, mode⟩⟩ entry.1 entry.2 =
      (Write.valueTemplate hooks entry).render mode :=
  (Template.render_slot mode _).symm

theorem row_eq_render (r : Record) :
    row ⟨table, ⟨hooks, mode⟩⟩ r = (Write.rowTemplate hooks r).render mode := by
  unfold row Write.rowTemplate
  rw [Template.render_append, Template.render_append, Template.render_ofText,
    Template.render_ofText, Template.render_intercalate, List.map_map]
  congr 4
  funext entry
  exact value_eq_render table hooks mode entry

theorem rows_eq_render (verb : String) (records : List Record) :
    rows ⟨table, ⟨hooks, mode⟩⟩ verb records =
      (Write.rowsTemplate table hooks verb records).render mode := by
  unfold rows Write.rowsTemplate
  rw [Template.render_append, Template.render_ofText, Template.render_intercalate, List.map_map]
  congr 3
  funext r
  exact row_eq_render table hooks mode r

theorem assignment_eq_render (entry : String × SqlValue) :
    assignment ⟨table, ⟨hooks, mode⟩⟩ entry.1 entry.2 =
      (Write.assignmentTemplate hooks entry).render mode := by
  rw [assignment, Write.assignmentTemplate, Template.render_append, Template.render_ofText,
    value_eq_render]

theorem head_eq_render (w : Write) :
    head ⟨table, ⟨hooks, mode⟩⟩ w = (w.headTemplate table hooks).render mode := by
  cases w with
  | insert r => exact rows_eq_render table hooks mode "INSERT INTO" [r]
  | insertBatch records => exact rows_eq_render table hooks mode "INSERT INTO" records
  | replaceInto records => exact rows_eq_render table hooks mode "REPLACE INTO" records
  | update changes c =>
    rw [head, updateHead, Write.headTemplate, Template.render_append, Template.render_ofText,
      Template.render_intercalate, List.map_map]
    congr 3
    funext entry
    exact assignment_eq_render table hooks mode entry
  | delete c => exact (Template.render_ofText mode _).symm

/-- A predicate is refused in both modes or in neither: it is blank where its template is empty. -/
theorem predicate_eq_render (c : Condition) :
    predicate ⟨table, ⟨hooks, mode⟩⟩ c =
      (Write.predicateTemplate hooks c).map (Template.render mode) := by
  have compiled := c.compile_eq_render hooks mode .and
  unfold predicate Write.predicateTemplate
  cases made : c.template hooks .and with
  | error e =>
    rw [made] at compiled
    simp only [compiled]
    rfl
  | ok t =>
    rw [made] at compiled
    have blank : Text.isBlankString (t.render mode).sql = t.isEmpty := by
      rw [Condition.isBlankString_of_compile compiled, Template.isEmpty_render]
    simp only [compiled]
    change (if Text.isBlankString (t.render mode).sql = true then _ else _) =
      Except.map _ (if t.isEmpty = true then _ else _)
    rw [blank, apply_ite (Except.map (Template.render mode))]
    rfl

theorem under_eq_template (w : Write) (c : Condition) :
    under ⟨table, ⟨hooks, mode⟩⟩ (head ⟨table, ⟨hooks, mode⟩⟩ w) c =
      Template.statement mode ((Write.predicateTemplate hooks c).map fun predicate =>
        w.headTemplate table hooks ++ .ofText " WHERE " ++ predicate) := by
  rw [under, predicate_eq_render, head_eq_render]
  cases Write.predicateTemplate hooks c with
  | error e => rfl
  | ok predicate =>
    refine congrArg (Except.ok ∘ Fragment.toStatement) ?_
    rw [Template.render_append, Template.render_append, Template.render_ofText]

theorem statement_eq_template (w : Write) :
    statement ⟨table, ⟨hooks, mode⟩⟩ w = Template.statement mode (w.template table hooks) := by
  rw [statement_eq, Write.template]
  cases w.refusal? table with
  | some e => rfl
  | none =>
    cases w.condition? with
    | none =>
      rw [head_eq_render]
      rfl
    | some c => exact under_eq_template table hooks mode w c

/-! ## Both modes -/

/-- What is bound is what the call writes, row by row and column by column, and then what its
condition binds. -/
theorem params_of_statement {table : String} {hooks : Hooks} {w : Write} {bound : Statement}
    (made : statement ⟨table, ⟨hooks, .parameterized⟩⟩ w = .ok bound) :
    match w.condition? with
    | none => bound.params = (w.values hooks).map SqlValue.param
    | some c => ∃ predicate, c.compile ⟨hooks, .parameterized⟩ .and = .ok predicate ∧
      bound.params = (w.values hooks).map SqlValue.param ++ predicate.params := by
  have written : (head ⟨table, ⟨hooks, .parameterized⟩⟩ w).params =
      (w.values hooks).map SqlValue.param := by
    rw [head_eq_render, Template.params_render_parameterized, Write.values_headTemplate]
  rw [statement_eq] at made
  cases refused : w.refusal? table with
  | some e =>
    rw [refused] at made
    cases made
  | none =>
    rw [refused] at made
    cases conditioned : w.condition? with
    | none =>
      rw [conditioned] at made
      cases made
      exact written
    | some c =>
      rw [conditioned] at made
      obtain ⟨predicate, found, rfl⟩ := map_eq_ok_iff.mp made
      obtain ⟨compiled, -⟩ := predicate_eq_ok_iff.mp found
      refine ⟨predicate, compiled, ?_⟩
      rw [← written]
      simp [Fragment.toStatement]

/-- Without and with parameters, a call fails with the same error both times, or the same template
is in both statements, with literals in the one and placeholders and values in the other. The values
are those of the records, row by row and column by column, then those of the condition. -/
theorem statement_parameterized (table : String) (hooks : Hooks) (w : Write) :
    Template.Aligned (w.template table hooks) (statement ⟨table, ⟨hooks, .inline⟩⟩ w)
        (statement ⟨table, ⟨hooks, .parameterized⟩⟩ w) ∧
      ∀ bound, statement ⟨table, ⟨hooks, .parameterized⟩⟩ w = .ok bound →
        match w.condition? with
        | none => bound.params = (w.values hooks).map SqlValue.param
        | some c => ∃ predicate, c.compile ⟨hooks, .parameterized⟩ .and = .ok predicate ∧
          bound.params = (w.values hooks).map SqlValue.param ++ predicate.params := by
  constructor
  · rw [statement_eq_template, statement_eq_template]
    exact Template.aligned_statement (w.template table hooks)
  · intro bound made
    exact params_of_statement made

/-- In a change, the new value is bound before the value of the condition. -/
theorem statement_parameterized_update :
    ∃ written bound,
      statement ⟨"users", ⟨.empty, .inline⟩⟩
        (.update ⟨[("name", .text "it's")]⟩ (.field "id" (.int 7))) = .ok written ∧
      statement ⟨"users", ⟨.empty, .parameterized⟩⟩
        (.update ⟨[("name", .text "it's")]⟩ (.field "id" (.int 7))) = .ok bound ∧
      written.sql = "UPDATE `users` SET `name` = 'it\\'s' WHERE `id` = 7" ∧
      bound.sql = "UPDATE `users` SET `name` = ? WHERE `id` = ?" ∧
      written.params = [] ∧
      ∃ predicate : Fragment, predicate.params = [.int 7] ∧
        bound.params = [.text "it's"] ++ predicate.params := by
  obtain ⟨-, values⟩ := statement_parameterized "users" .empty
    (.update ⟨[("name", .text "it's")]⟩ (.field "id" (.int 7)))
  obtain ⟨predicate, compiled, params⟩ := values _ rfl
  cases compiled
  exact ⟨_, _, rfl, rfl, rfl, rfl, rfl, _, rfl, params⟩

end Mutation

end Clausal
