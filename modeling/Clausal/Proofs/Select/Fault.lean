import Clausal.Select.Querier
/-!
# What can be wrong with a selection

The checks of a selection have an order: its table, all of its joins, its filter and, where rows are
grouped, the condition on groups. Whether it is fetched or counted, the first check that fails is
the one that is told, and with no such check there are rows.
-/

namespace Clausal

/-- The error of an outcome, if it is none of the good ones. -/
def errorOf? {α : Type} : Except Error α → Option Error
  | .ok _ => none
  | .error e => some e

/-- A join that lacks its table or its condition. -/
def Join.isIncomplete (j : Join) : Bool :=
  Text.isBlankString j.table || Text.isBlankString j.on

theorem Join.errorOf?_clauses (joins : List Join) : errorOf? (clauses joins) =
    if joins.any isIncomplete then some .incompleteJoin else none := by
  induction joins with
  | nil => rfl
  | cons j rest ih =>
    rw [clauses, clause, List.any_cons]
    cases lacking : j.isIncomplete with
    | true =>
      rw [isIncomplete] at lacking
      rw [if_pos lacking]
      rfl
    | false =>
      rw [isIncomplete] at lacking
      rw [if_neg (by simp [lacking]), Bool.false_or, ← ih]
      cases clauses rest <;> rfl

namespace Selection

/-- What is wrong with a condition, if there is one. -/
def conditionFault? (r : Rendering) (condition : Option Condition) : Option Error :=
  condition.bind fun c => errorOf? (c.compile r .and)

/-- The checks of a selection in their order, each with its error if it fails. -/
def checks (s : Selection) : List (Option Error) :=
  [if Text.isBlankString s.table then some .noTable else none,
    if s.joins.any Join.isIncomplete then some .incompleteJoin else none,
    conditionFault? s.rendering s.filter,
    if Text.isBlankString s.groupBy then none else conditionFault? s.rendering s.having]

/-- The error of the first check that fails. -/
def fault? (s : Selection) : Option Error :=
  s.checks.findSome? id

theorem errorOf?_conditionClause (r : Rendering) (keyword : String)
    (condition : Option Condition) :
    errorOf? (conditionClause r keyword condition) = conditionFault? r condition := by
  cases condition with
  | none => rfl
  | some c =>
    rw [conditionClause, conditionFault?, Option.bind_some]
    cases c.compile r .and <;> rfl

theorem errorOf?_groupClause (s : Selection) : errorOf? s.groupClause =
    if Text.isBlankString s.groupBy then none else conditionFault? s.rendering s.having := by
  unfold groupClause
  split
  · rfl
  · rw [← errorOf?_conditionClause s.rendering " HAVING "]
    cases conditionClause s.rendering " HAVING " s.having <;> rfl

/-- Without rows there is the error of the first check that fails. -/
theorem errorOf?_rows (s : Selection) : errorOf? s.rows = s.fault? := by
  unfold rows fault? checks
  rw [← Join.errorOf?_clauses, ← errorOf?_conditionClause s.rendering " WHERE ",
    ← errorOf?_groupClause]
  split
  · rfl
  -- The steps that are left are taken in the order of the checks.
  · cases Join.clauses s.joins with
    | error e => rfl
    | ok joins =>
      cases conditionClause s.rendering " WHERE " s.filter with
      | error e => rfl
      | ok filter => cases s.groupClause <;> rfl

theorem errorOf?_statement (s : Selection) : errorOf? s.statement = s.fault? := by
  rw [← errorOf?_rows, statement]
  cases s.rows <;> rfl

theorem errorOf?_countStatement (s : Selection) : errorOf? s.countStatement = s.fault? := by
  rw [← errorOf?_rows, countStatement]
  cases s.rows <;> rfl

end Selection

namespace Query

/-- What is wrong with the count of a given text: the text is blank, or the selection that a filter
makes it be counted by is faulty. -/
def givenFault? (q : Query) (given : Statement) : Option Error :=
  if q.selection.filter.isSome then q.selection.fault?
  else if Text.isBlankString given.sql then some .emptyQuery else none

theorem errorOf?_countStatement (q : Query) : errorOf? q.countStatement =
    match q.given with
    | some given => q.givenFault? given
    | none => q.selection.fault? := by
  unfold countStatement givenFault? givenCount
  cases q.given with
  | none => exact q.selection.errorOf?_countStatement
  | some given =>
    cases q.selection.filter with
    | some condition => exact q.selection.errorOf?_countStatement
    | none =>
      change errorOf? given.countStatement =
        if Text.isBlankString given.sql then some .emptyQuery else none
      unfold Statement.countStatement
      split <;> rfl

theorem errorOf?_statement (q : Query) : errorOf? q.statement =
    match q.given with
    | some _ => none
    | none => q.selection.fault? := by
  unfold statement
  cases q.given with
  | none => exact q.selection.errorOf?_statement
  | some given => rfl

end Query

end Clausal
