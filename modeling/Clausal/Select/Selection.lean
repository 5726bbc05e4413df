import Clausal.Condition.Compile
import Clausal.Statement
/-!
Selections: which columns of which tables, under which conditions, in which order and how many rows.
A selection becomes a statement clause by clause; a clause that says nothing is left out.
-/

namespace Clausal

/-- How a table is joined. -/
inductive JoinKind where
  | inner
  | left
  | right
  | custom (keywords : String)
deriving DecidableEq

/-- The words before JOIN. -/
def JoinKind.keywords : JoinKind → String
  | inner => "INNER"
  | left => "LEFT"
  | right => "RIGHT"
  | custom keywords => Text.trimmed keywords

/-- A joined table and the condition to join it on, both as they are written. -/
structure Join where
  kind : JoinKind
  table : String
  on : String
deriving DecidableEq

/-- What is selected. The columns, the grouping and the order are text as it stands in the
statement; a limit of zero is no limit. -/
structure Selection where
  columns : String := ""
  table : String := ""
  joins : List Join := []
  filter : Option Condition := none
  groupBy : String := ""
  having : Option Condition := none
  orderBy : String := ""
  offset : UInt64 := 0
  limit : UInt64 := 0
  rendering : Rendering := {}

instance : Inhabited Selection := ⟨{}⟩

/-- A join with the blank before it. A table or a condition that is blank makes no join. -/
def Join.clause (j : Join) : Except Error Fragment :=
  if Text.isBlankString j.table || Text.isBlankString j.on then .error .incompleteJoin
  else
    let keywords := j.kind.keywords
    .ok (.ofText (" " ++ (if keywords.isEmpty then "" else keywords ++ " ") ++ "JOIN " ++
      Identifier.quoteTable (Text.trimmed j.table) ++ " ON " ++ Text.trimmed j.on))

/-- All joins. -/
def Join.clauses : List Join → Except Error Fragment
  | [] => .ok {}
  | j :: rest => do
    let first ← j.clause
    return first ++ (← clauses rest)

namespace Selection

/-- The columns; none are all. -/
def columnList (s : Selection) : String :=
  if Text.isBlankString s.columns then "*" else Text.trimmed s.columns

/-- A condition after its keyword; nothing if there is no condition or it says nothing. -/
def conditionClause (r : Rendering) (keyword : String) : Option Condition → Except Error Fragment
  | none => .ok {}
  | some condition => do
    let predicate ← condition.compile r .and
    return if predicate.isEmpty then {} else .ofText keyword ++ predicate

/-- The grouping, and the condition on groups, which makes no sense without one. -/
def groupClause (s : Selection) : Except Error Fragment :=
  if Text.isBlankString s.groupBy then .ok {}
  else do
    let having ← conditionClause s.rendering " HAVING " s.having
    return .ofText (" GROUP BY " ++ Text.trimmed s.groupBy) ++ having

/-- All clauses that decide which rows there are. -/
def rows (s : Selection) : Except Error Fragment :=
  if Text.isBlankString s.table then .error .noTable
  else do
    let joins ← Join.clauses s.joins
    let filter ← conditionClause s.rendering " WHERE " s.filter
    let groups ← s.groupClause
    return .ofText ("SELECT " ++ s.columnList ++ " FROM " ++
      Identifier.quoteTable (Text.trimmed s.table)) ++ joins ++ filter ++ groups

/-- The order of the rows. -/
def orderClause (s : Selection) : Fragment :=
  if Text.isBlankString s.orderBy then {} else .ofText (" ORDER BY " ++ Text.trimmed s.orderBy)

/-- Which part of the rows is wanted. The offset is told only together with a limit. -/
def limitClause (s : Selection) : Fragment :=
  if s.limit = 0 then {}
  else .ofText (" LIMIT " ++ toString s.offset.toNat ++ ", " ++ toString s.limit.toNat)

/-- The statement that fetches the rows. -/
def statement (s : Selection) : Except Error Statement := do
  let rows ← s.rows
  return (rows ++ s.orderClause ++ s.limitClause).toStatement

end Selection

end Clausal
