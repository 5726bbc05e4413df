import Clausal.Error
import Clausal.Json.Printer
import Clausal.Text.Numeral
import Clausal.Text.Utf8
/-!
What a database answers: rows of text in named columns. Rows may be shorter or longer than the list
of columns, and columns may share a name.
-/

namespace Clausal

/-- One row. -/
structure Row where
  columns : List String
  values : List String
deriving DecidableEq

namespace Row

/-- The value at the first column of a name; none if there is no such column or the row is too
short for it. -/
def get? (row : Row) (column : String) : Option String :=
  (row.columns.findIdx? (· == column)).bind fun i => row.values[i]?

/-- The first value. -/
def first? (row : Row) : Option String :=
  row.values.head?

/-- The values with their columns, as far as there are both. -/
def pairs (row : Row) : List (String × String) :=
  row.columns.zip row.values

/-- A row as an object, columns of one name included each time. -/
def toJson (row : Row) : Json :=
  .object (row.pairs.map fun (column, value) => (column, .string value))

end Row

/-- The rows of an answer and their number, the number of rows of the full result and the place of
these rows in it. -/
structure QueryResult where
  total : UInt64 := 0
  offset : UInt64 := 0
  rowCount : Nat := 0
  columns : List String := []
  rows : List Row := []
deriving DecidableEq

namespace QueryResult

instance : Inhabited QueryResult := ⟨{}⟩

/-- A full result. -/
def ofRows (columns : List String) (rows : List (List String)) : QueryResult where
  total := UInt64.ofNat rows.length
  rowCount := rows.length
  columns
  rows := rows.map fun values => ⟨columns, values⟩

/-- Whether no row is there. -/
def isEmpty (r : QueryResult) : Bool :=
  r.rows.isEmpty

/-- A result as an object. -/
def toJson (r : QueryResult) : Json :=
  .object
    [("total_count", .uint r.total), ("offset", .uint r.offset),
     ("rows_count", .uint (UInt64.ofNat r.rowCount)),
     ("columns", .array (r.columns.map .string)), ("rows", .array (r.rows.map Row.toJson))]

/-- The number in the first cell of a counting answer; no cell counts nothing. -/
def count (r : QueryResult) : Except Error UInt64 :=
  match r.rows.head?.bind Row.first? with
  | none => .ok 0
  | some cell =>
    match Text.readUInt64? (Text.trim cell.toList) with
    | some n => .ok n
    | none => .error (.invalidValue ("count result '" ++ cell ++ "' is not a number"))

end QueryResult

/-- What a statement that writes answers. -/
structure WriteResult where
  rowsAffected : UInt64 := 0
  lastInsertId : UInt64 := 0
deriving DecidableEq

namespace Cell

/-- Whether a byte is a control character. -/
def isControl (b : UInt8) : Bool :=
  b < 32

/-- A cell of bytes as text. Nothing but control characters is taken as numbers, which are written
one after another in base 2; all else is UTF-8. -/
def decode (bytes : List UInt8) : String :=
  if bytes.all isControl then String.ofList (bytes.flatMap fun b => Nat.toDigits 2 b.toNat)
  else Text.Utf8.decodeString bytes

end Cell

end Clausal
