import Clausal.Condition.Compile
import Clausal.Statement
import Clausal.Write.Record
/-!
Statements that write: rows that are inserted or replaced, and rows that are changed or deleted
under a condition. A change or a deletion whose condition says nothing is refused, since it would
reach every row.
-/

namespace Clausal

/-- The table to write to, and how values are written. -/
structure Mutation where
  table : String
  rendering : Rendering := {}

namespace Mutation

/-- The name of the table as it stands in a statement. -/
def tableName (m : Mutation) : Except Error String :=
  if Text.isBlankString m.table then .error .noTable
  else .ok (Identifier.quote (Text.trimmed m.table))

/-- The value to write to a column. -/
def value (m : Mutation) (column : String) (v : SqlValue) : Fragment :=
  .ofValue m.rendering.mode (m.rendering.hooks.apply column v)

/-! ## Rows -/

/-- The values of a record, in parentheses. -/
def row (m : Mutation) (r : Record) : Fragment :=
  .ofText "(" ++ Fragment.intercalate ", " (r.entries.map fun (column, v) => m.value column v) ++
    .ofText ")"

/-- The first record from an index on whose columns are not the given ones, in the same order. -/
def firstMismatch? (columns : List String) (index : Nat) : List Record → Option Nat
  | [] => none
  | r :: rest =>
    if r.columns = columns then firstMismatch? columns (index + 1) rest else some index

/-- A statement that writes rows. All records have the columns of the first. -/
def writeRows (m : Mutation) (verb : String) (records : List Record) : Except Error Statement := do
  let table ← m.tableName
  match records with
  | [] => .error (.nothingToWrite "no records to write")
  | first :: _ =>
    if first.isEmpty then .error (.nothingToWrite "no columns to write")
    else
      match firstMismatch? first.columns 0 records with
      | some i => .error (.invalidValue
          ("record " ++ toString i ++ " does not match the columns of the first record"))
      | none =>
        let columns := String.intercalate ", " (first.columns.map Identifier.quote)
        return (.ofText (verb ++ " " ++ table ++ " (" ++ columns ++ ") VALUES ") ++
          Fragment.intercalate ", " (records.map m.row)).toStatement

/-- Inserts rows. -/
def insertBatch (m : Mutation) (records : List Record) : Except Error Statement :=
  m.writeRows "INSERT INTO" records

/-- Inserts one row. -/
def insert (m : Mutation) (r : Record) : Except Error Statement :=
  m.insertBatch [r]

/-- Inserts rows over the rows with the same keys. -/
def replaceInto (m : Mutation) (records : List Record) : Except Error Statement :=
  m.writeRows "REPLACE INTO" records

/-! ## Conditions -/

/-- The predicate of a condition, which must say something. -/
def predicate (m : Mutation) (condition : Condition) : Except Error Fragment := do
  let predicate ← condition.compile m.rendering .and
  if Text.isBlankString predicate.sql then .error .emptyCondition else return predicate

/-- One column with its new value. -/
def assignment (m : Mutation) (column : String) (v : SqlValue) : Fragment :=
  .ofText (Identifier.quote column ++ " = ") ++ m.value column v

/-- Changes the rows under a condition. -/
def update (m : Mutation) (changes : Record) (condition : Condition) : Except Error Statement := do
  if changes.isEmpty then .error (.nothingToWrite "nothing to update")
  else
    let table ← m.tableName
    let predicate ← m.predicate condition
    let assignments := changes.entries.map fun (column, v) => m.assignment column v
    return (.ofText ("UPDATE " ++ table ++ " SET ") ++ Fragment.intercalate ", " assignments ++
      .ofText " WHERE " ++ predicate).toStatement

/-- Deletes the rows under a condition. -/
def delete (m : Mutation) (condition : Condition) : Except Error Statement := do
  let table ← m.tableName
  let predicate ← m.predicate condition
  return (.ofText ("DELETE FROM " ++ table ++ " WHERE ") ++ predicate).toStatement

end Mutation

end Clausal
