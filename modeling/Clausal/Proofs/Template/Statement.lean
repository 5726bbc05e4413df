import Clausal.Proofs.Template.Placeholder
import Clausal.Statement
/-!
# Statements made from templates

A statement that is a rendered template differs between the modes at the slots only. Where there is
no template, because it cannot be made, there is no statement in either mode.
-/

namespace Clausal

/-- The question marks of a statement are its placeholders, as many as it has values; with the
literals of the values in their places it is the other statement. -/
structure Statement.Marks (bound written : Statement) : Prop where
  count : bound.sql.toList.count '?' = bound.params.length
  substitute : Template.substitute bound.sql.toList (bound.params.map SqlValue.literal) =
    written.sql.toList

namespace Template

/-- One template in two statements: as it is with literals and as it is with parameters. There is
one value for each slot, so filling the slots with the literals of the values leaves none over. -/
structure Aligns (t : Template) (written bound : Statement) : Prop where
  unbound : written.params = []
  values : bound.params = t.values.map SqlValue.param
  placeholders : bound.sql = t.fill (bound.params.map fun _ => placeholder)
  literals : written.sql = t.fill (bound.params.map SqlValue.literal)

theorem aligns_render (t : Template) :
    t.Aligns (t.render .inline).toStatement (t.render .parameterized).toStatement where
  unbound := params_render_inline t
  values := params_render_parameterized t
  placeholders := by
    have marks : (t.render .parameterized).params.map (fun _ => placeholder) =
        t.values.map fun _ => placeholder := by
      rw [params_render_parameterized, List.map_map]
      rfl
    change (t.render .parameterized).sql = _
    rw [sql_render_parameterized]
    exact congrArg t.fill marks.symm
  literals := sql_render_inline t

/-- The statements are the rendered template, so its slots can be found again where no other
question mark stands. -/
theorem Aligns.marks {t : Template} {written bound : Statement} (aligns : t.Aligns written bound)
    (unmarked : t.Unmarked) : bound.Marks written := by
  have params : bound.params = (t.render .parameterized).params := by
    rw [aligns.values, params_render_parameterized]
  have inline : written.sql = (t.render .inline).sql := by
    rw [aligns.literals, params, sql_render_inline]
  have parameterized : bound.sql = (t.render .parameterized).sql := by
    rw [aligns.placeholders, aligns.values, List.map_map, sql_render_parameterized]
    rfl
  constructor
  · rw [parameterized, count_render unmarked, aligns.values, List.length_map]
  · rw [parameterized, params, substitute_render unmarked, inline]

/-- What comes of a template in both modes: two statements that are aligned, or in both the error
that the template cannot be made for. -/
inductive Aligned :
    Except Error Template → Except Error Statement → Except Error Statement → Prop where
  | failed (e : Error) : Aligned (.error e) (.error e) (.error e)
  | made {t : Template} {written bound : Statement} (aligns : t.Aligns written bound) :
    Aligned (.ok t) (.ok written) (.ok bound)

/-- The statement of a template in a mode, if it can be made. -/
def statement (mode : Mode) (made : Except Error Template) : Except Error Statement :=
  made.map fun t => (t.render mode).toStatement

theorem aligned_statement (made : Except Error Template) :
    Aligned made (statement .inline made) (statement .parameterized made) := by
  cases made with
  | error e => exact .failed e
  | ok t => exact .made t.aligns_render

theorem Aligned.marks {made : Except Error Template} {inline parameterized : Except Error Statement}
    (aligned : Aligned made inline parameterized) (unmarked : ∀ t, made = .ok t → t.Unmarked)
    {written bound : Statement} (first : inline = .ok written)
    (second : parameterized = .ok bound) : bound.Marks written := by
  cases aligned with
  | failed e => cases first
  | made aligns =>
    cases first
    cases second
    exact aligns.marks (unmarked _ rfl)

end Template

end Clausal
