import Clausal.Execution.Executor
import Clausal.Saturating
import Clausal.Text.Search
/-!
A table in memory that holds a given number of users. It understands counting statements and a limit
clause at the end, and notes every statement that it runs.
-/

namespace Clausal.UserTable

/-- How a counting statement starts. -/
def countWord : List Char := "SELECT COUNT(0)".toList

/-- The keyword of a limit clause. -/
def limitWord : List Char := " LIMIT ".toList

/-- The offset and the number of rows that the last limit clause of a statement names. -/
def window? (cs : List Char) : Option (UInt64 × UInt64) :=
  (Text.afterLast? limitWord cs).bind fun clause =>
    match clause.dropWhile (· != ',') with
    | [] => none
    | _ :: size =>
      (Text.readUInt64? (Text.trim (clause.takeWhile (· != ',')))).bind fun offset =>
        (Text.readUInt64? (Text.trim size)).map fun size => (offset, size)

/-- The row at a position, counted from zero. -/
def row (i : Nat) : List String :=
  [toString (i + 1), "user" ++ toString (i + 1)]

/-- What a table of so many rows answers. -/
def reply (rows : UInt64) (statement : Statement) : QueryResult :=
  let cs := statement.sql.toList
  if countWord.isPrefixOf cs then .ofRows ["COUNT(0)"] [[toString rows.toNat]]
  else
    let (offset, size) := (window? cs).getD (0, rows)
    let stop := min (Saturating.add offset size) rows
    .ofRows ["id", "name"]
      ((List.range' offset.toNat (stop.toNat - offset.toNat)).map row)

/-- A table of so many rows. Its state is the list of statements that it has run. A statement that
writes is answered as if it had added one row behind the others, but it changes nothing. -/
def executor (rows : UInt64) : Executor (List Statement) where
  query statement := do
    modify (· ++ [statement])
    return reply rows statement
  execute statement := do
    modify (· ++ [statement])
    return { rowsAffected := 1, lastInsertId := rows + 1 }

end Clausal.UserTable
