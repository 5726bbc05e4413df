import Clausal.MySql.Failure
import Clausal.Result
import Clausal.SqlValue.Convert
/-!
Typed cells of a reply and their text. Null is the empty text. A cell is decoded by the type of its
column; a cell that does not hold what the type promises cannot be decoded.
-/

namespace Clausal.MySql

/-- What a column holds, as far as decoding tells types apart. -/
inductive ColumnType where
  | boolean (signed : Bool)
  | integer (signed : Bool)
  | year
  | float
  | double
  | date
  | dateTime
  | timestamp
  | time
  /-- All other types; their cells are bytes. -/
  | other
deriving DecidableEq

namespace ColumnType

/-- The sizes that whole numbers come in. -/
def integerNames : List String :=
  ["TINYINT", "SMALLINT", "MEDIUMINT", "INT", "BIGINT"]

/-- The type of a name. -/
def ofName (name : String) : ColumnType :=
  if name = "BOOLEAN" then boolean true
  else if name = "BOOLEAN UNSIGNED" then boolean false
  else if integerNames.contains name then integer true
  else if (integerNames.map (· ++ " UNSIGNED")).contains name then integer false
  else match name with
    | "YEAR" => year
    | "FLOAT" => float
    | "DOUBLE" => double
    | "DATE" => date
    | "DATETIME" => dateTime
    | "TIMESTAMP" => timestamp
    | "TIME" => time
    | _ => other

end ColumnType

/-- A cell as the server sends it. Days and times are lists of parts from the year or the hour on,
whose last parts may be missing. -/
inductive Cell where
  | null
  | integer (n : Int)
  | float (x : Float32)
  | double (x : Float)
  | parts (parts : List Nat)
  | bytes (bytes : List UInt8)

namespace Cell

instance : Inhabited Cell := ⟨.null⟩

/-- Whether a cell counts as null. A day without parts does, a time of day does not. -/
def isNull (type : ColumnType) : Cell → Bool
  | null => true
  | parts [] => type = .date || type = .dateTime || type = .timestamp
  | _ => false

/-- The day of the first three parts, if it exists. -/
def date? : List Nat → Option Calendar.Date
  | year :: month :: day :: _ =>
    let date : Calendar.Date := ⟨year, month, day⟩
    if date.exists? then some date else none
  | _ => none

/-- The time of day of up to four parts, if it exists; none at all are midnight. A million
microseconds and more are a leap second, which only follows second 59. -/
def time? : List Nat → Option Calendar.Time
  | [] => some ⟨0, 0, 0, 0⟩
  | hour :: minute :: second :: rest =>
    let microsecond := rest.head?.getD 0
    let time : Calendar.Time := ⟨hour, minute, second, microsecond * 1000⟩
    if time.exists? && (microsecond < 1000000 || (second == 59 && microsecond < 2000000)) then
      some time
    else none
  | _ => none

/-- The text of a cell of a column of the given type. A time stamp is never of the type that is
asked for. -/
def text? (type : ColumnType) (cell : Cell) : Option String :=
  if cell.isNull type then some ""
  else match type, cell with
    | .boolean _, integer n => some (if n = 0 then "0" else "1")
    | .integer _, integer n => some (toString n)
    | .year, integer n => some (toString n)
    | .float, float x => some (SqlValue.float32Text x)
    | .double, double x => some (SqlValue.floatText x)
    | .date, parts ns => (date? ns).map Calendar.Date.text
    | .dateTime, parts ns =>
      (date? ns).bind fun date =>
        (time? (ns.drop 3)).map fun time => Calendar.dateTimeText date time
    | .time, parts ns => (time? ns).map Calendar.Time.text
    | .other, bytes bs => some (Clausal.Cell.decode bs)
    | _, _ => none

/-- The number of a cell that counts rows: a signed whole number that is not null. -/
def count? (type : ColumnType) (cell : Cell) : Option Int :=
  match type, cell with
  | .boolean true, integer n => some n
  | .integer true, integer n => some n
  | _, _ => none

end Cell

/-- A column of a reply. -/
structure Column where
  name : String
  type : ColumnType

instance : Inhabited Column := ⟨⟨"", .other⟩⟩

namespace Row

/-- The texts of the cells of a row, from a position on. The first cell that cannot be decoded is
the failure. -/
def decodeFrom (position : Nat) : List (Column × Cell) → Except Failure (List String)
  | [] => .ok []
  | (column, cell) :: rest =>
    match cell.text? column.type with
    | none => .error (.undecodable position)
    | some text => do return text :: (← decodeFrom (position + 1) rest)

/-- The texts of the cells of a row. -/
def decode (columns : List Column) (cells : List Cell) : Except Failure (List String) :=
  decodeFrom 0 (columns.zip cells)

/-- The number in the first cell of a row that counts rows; a negative one counts none. -/
def count (columns : List Column) (cells : List Cell) : Except Failure UInt64 :=
  match columns, cells with
  | column :: _, cell :: _ =>
    match cell.count? column.type with
    | some n => .ok (UInt64.ofNat n.toNat)
    | none => .error (.undecodable 0)
  | _, _ => .error (.missingPosition 0 0)

end Row

end Clausal.MySql
