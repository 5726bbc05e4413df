import Clausal.SqlValue.Basic
/-!
Records: the columns of one row with their values, in the order in which they were first set.
-/

namespace Clausal

/-- The columns of one row with their values; `set` keeps the columns apart. -/
structure Record where
  entries : List (String × SqlValue) := []

namespace Record

instance : Inhabited Record := ⟨{}⟩

/-- Entries with one more column set: over the entry of that column, or else at the end. -/
def setEntry (column : String) (value : SqlValue) :
    List (String × SqlValue) → List (String × SqlValue)
  | [] => [(column, value)]
  | (other, kept) :: rest =>
    if other = column then (column, value) :: rest
    else (other, kept) :: setEntry column value rest

/-- Sets a column. Setting it again keeps its place. -/
def set (r : Record) (column : String) (value : SqlValue) : Record :=
  ⟨setEntry column value r.entries⟩

/-- The record of several columns, set one after another. -/
def ofList (pairs : List (String × SqlValue)) : Record :=
  pairs.foldl (fun r (column, value) => r.set column value) {}

/-- Whether no column is set. -/
def isEmpty (r : Record) : Bool :=
  r.entries.isEmpty

/-- The columns in order. -/
def columns (r : Record) : List String :=
  r.entries.map Prod.fst

/-- The values in the order of the columns. -/
def values (r : Record) : List SqlValue :=
  r.entries.map Prod.snd

/-- The value of a column. -/
def find? (r : Record) (column : String) : Option SqlValue :=
  (r.entries.find? fun entry => entry.1 == column).map Prod.snd

/-- A record as a list of pairs. -/
def toJson (r : Record) : Json :=
  .array (r.entries.map fun (column, value) => .array [.string column, value.toJson])

end Record

end Clausal
