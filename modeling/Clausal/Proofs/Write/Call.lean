import Clausal.Proofs.Write.Guard
/-!
# Calls that write

A call that writes is checked first and written afterwards. The checks look at the table and at the
columns, never at a value; what is written is a head with the rows or the assignments, and for a
change or a deletion the predicate of its condition. So each of the calls is one and the same
sequence of steps, and what holds of the steps holds of all of them.
-/

namespace Clausal

open Text (isBlankString)

/-- A call that writes to a table. -/
inductive Write where
  | insert (r : Record)
  | insertBatch (records : List Record)
  | replaceInto (records : List Record)
  | update (changes : Record) (condition : Condition)
  | delete (condition : Condition)

namespace Write

/-- The records whose values are written, in order. -/
def records : Write → List Record
  | insert r => [r]
  | insertBatch records => records
  | replaceInto records => records
  | update changes _ => [changes]
  | delete _ => []

/-- The condition on the rows that are changed or deleted. -/
def condition? : Write → Option Condition
  | update _ condition => some condition
  | delete condition => some condition
  | _ => none

/-- The columns that the statement names, which are those of the first record. -/
def columns (w : Write) : List String :=
  match w.records with
  | [] => []
  | first :: _ => first.columns

/-- The values that are written, row by row and column by column, each after its hook. -/
def values (hooks : Hooks) (w : Write) : List SqlValue :=
  w.records.flatMap fun r => r.entries.map fun (column, v) => hooks.apply column v

/-! ## Checks -/

/-- Why records cannot be written as rows. -/
def rowsRefusal? : List Record → Option Error
  | [] => some (.nothingToWrite "no records to write")
  | first :: rest =>
    if first.isEmpty then some (.nothingToWrite "no columns to write")
    else (Mutation.firstMismatch? first.columns 0 (first :: rest)).map fun i =>
      .invalidValue ("record " ++ toString i ++ " does not match the columns of the first record")

/-- Why a call is refused before its condition is looked at. A change is looked at before its table,
rows after it. -/
def refusal? (table : String) : Write → Option Error
  | update changes _ =>
    if changes.isEmpty then some (.nothingToWrite "nothing to update")
    else if isBlankString table then some .noTable
    else none
  | delete _ => if isBlankString table then some .noTable else none
  | w => if isBlankString table then some .noTable else rowsRefusal? w.records

end Write

namespace Mutation

/-- The statement of a call. -/
def statement (m : Mutation) : Write → Except Error Statement
  | .insert r => m.insert r
  | .insertBatch records => m.insertBatch records
  | .replaceInto records => m.replaceInto records
  | .update changes condition => m.update changes condition
  | .delete condition => m.delete condition

/-! ## What is written -/

/-- Rows under the columns of the first. -/
def rows (m : Mutation) (verb : String) (records : List Record) : Fragment :=
  .ofText (verb ++ " " ++ Identifier.quote (Text.trimmed m.table) ++ " (" ++
      String.intercalate ", " ((Write.insertBatch records).columns.map Identifier.quote) ++
      ") VALUES ") ++
    Fragment.intercalate ", " (records.map m.row)

/-- All of a statement that stands before the WHERE of its condition. -/
def head (m : Mutation) : Write → Fragment
  | .insert r => m.rows "INSERT INTO" [r]
  | .insertBatch records => m.rows "INSERT INTO" records
  | .replaceInto records => m.rows "REPLACE INTO" records
  | .update changes _ => m.updateHead changes
  | .delete _ => m.deleteHead

theorem writeRows_eq (m : Mutation) (verb : String) (records : List Record) :
    m.writeRows verb records =
      match (Write.insertBatch records).refusal? m.table with
      | some e => .error e
      | none => .ok (m.rows verb records).toStatement := by
  unfold writeRows tableName Write.refusal? Write.records Write.rowsRefusal?
  split
  · rfl
  · cases records with
    | nil => rfl
    | cons first rest =>
      simp only [bind, Except.bind, pure, Except.pure]
      split
      · rfl
      · cases firstMismatch? first.columns 0 (first :: rest) <;> rfl

/-- A call is checked, and then written with its condition, if it has one. -/
theorem statement_eq (m : Mutation) (w : Write) :
    m.statement w =
      match w.refusal? m.table with
      | some e => .error e
      | none =>
        match w.condition? with
        | none => .ok (m.head w).toStatement
        | some c => m.under (m.head w) c := by
  cases w with
  | insert r => exact m.writeRows_eq "INSERT INTO" [r]
  | insertBatch records => exact m.writeRows_eq "INSERT INTO" records
  | replaceInto records => exact m.writeRows_eq "REPLACE INTO" records
  | update changes c =>
    rw [statement, update_eq, Write.refusal?]
    split
    · rfl
    · split <;> rfl
  | delete c =>
    rw [statement, delete_eq, Write.refusal?]
    split <;> rfl

end Mutation

end Clausal
