import Clausal.Execution.Executor
import Clausal.MySql.Cell
/-!
A server that answers from a script, and its executor. Each statement that reaches execution takes
the next reply and is noted with the values bound to it; when no reply is left the server reports an
error. The executor has its own way to fetch a page: it reads the count as a number of the column's
type and not as text.
-/

namespace Clausal.MySql

/-- A value bound to a placeholder. -/
inductive Binding where
  | null
  | int (n : Int64)
  | uint (n : UInt64)
  | float (x : Float)
  | text (s : String)

/-- The value that is bound for a parameter. -/
def Binding.ofValue (value : SqlValue) : Binding :=
  match value.param with
  | .null => null
  | .int n => int n
  | .uint n => uint n
  | .float x => float x
  | .text s => text s
  | other => text other.plain

/-- A statement that was executed. -/
structure Call where
  sql : String
  bindings : List Binding

/-- The call that runs a statement. -/
def Call.ofStatement (statement : Statement) : Call :=
  ⟨statement.sql, statement.params.map .ofValue⟩

/-- What the server does with one statement. -/
inductive Reply where
  /-- Rows; without any, the columns can be asked for only if the server tells them. -/
  | rows (columns : List Column) (rows : List (List Cell)) (tellsColumns : Bool := true)
  /-- A statement that gives no rows. -/
  | done (result : WriteResult)
  | failed (failure : Failure)
  /-- The statement is refused before it is executed. -/
  | refused (failure : Failure)

/-- A server: why no connection can be opened, if so, the replies that are left, and the statements
that were executed. -/
structure Server where
  fault : Option Failure := none
  replies : List Reply := []
  executed : List Call := []

namespace Server

/-- How a server fails that has no reply left. -/
def exhausted : Failure :=
  .server 1105 "HY000" "script exhausted"

end Server

/-- An exchange with a server; what the server has seen is kept when it fails. -/
abbrev Exchange := ExceptT Failure (StateM Server)

namespace Exchange

/-- An outcome that is known without the server. -/
def ofExcept {α : Type} (outcome : Except Failure α) : Exchange α :=
  ExceptT.mk (pure outcome)

/-- Runs an exchange; its failure becomes an error. -/
def toRun {α : Type} (exchange : Exchange α) : Run Server α :=
  ExceptT.mk (Except.mapError Failure.toError <$> ExceptT.run exchange)

end Exchange

namespace Server

/-- Opens a connection. -/
def connect : Exchange Unit := do
  match (← get).fault with
  | some failure => throw failure
  | none => return ()

/-- Sends a statement over an open connection. -/
def send (statement : Statement) : Exchange Reply := do
  let server ← get
  let executed := server.executed ++ [Call.ofStatement statement]
  match server.replies with
  | [] =>
    set { server with executed }
    throw exhausted
  | .refused failure :: rest =>
    set { server with replies := rest }
    throw failure
  | .failed failure :: rest =>
    set { server with replies := rest, executed }
    throw failure
  | reply :: rest =>
    set { server with replies := rest, executed }
    return reply

end Server

namespace Reply

/-- The names of the columns. They come with the first row; without a row the server is asked. -/
def columnNames : Reply → List String
  | rows columns [] tellsColumns => if tellsColumns then columns.map Column.name else []
  | rows columns _ _ => columns.map Column.name
  | _ => []

/-- A reply as a full result. -/
def result (reply : Reply) : Except Failure QueryResult :=
  match reply with
  | rows columns cells _ => do
    return .ofRows reply.columnNames (← cells.mapM (Row.decode columns))
  | _ => .ok (.ofRows reply.columnNames [])

/-- The number that a counting statement gives; no row counts nothing. -/
def count : Reply → Except Failure UInt64
  | rows columns (cells :: _) _ => Row.count columns cells
  | _ => .ok 0

/-- What a statement has written. Rows are ignored. -/
def written : Reply → WriteResult
  | done result => result
  | _ => {}

end Reply

namespace Server

/-- Runs a statement and reads its rows. -/
def query (statement : Statement) : Exchange QueryResult := do
  connect
  let reply ← send statement
  Exchange.ofExcept reply.result

/-- Runs a statement that writes. -/
def execute (statement : Statement) : Exchange WriteResult := do
  connect
  let reply ← send statement
  return reply.written

/-- Counts and fetches over one connection. The count must be a number before anything is
fetched. -/
def page (counting fetching : Statement) : Exchange (UInt64 × QueryResult) := do
  connect
  let total ← Exchange.ofExcept (← send counting).count
  let result ← Exchange.ofExcept (← send fetching).result
  return (total, result)

/-- The executor of a server. -/
def executor : Executor Server where
  query statement := (query statement).toRun
  execute statement := (execute statement).toRun
  page counting fetching := (page counting fetching).toRun

/-- Opens a first connection at once, so that a fault shows now. -/
def open? (server : Server) : Except Error Unit :=
  match server.fault with
  | some failure => .error failure.toConnectionError
  | none => .ok ()

end Server

end Clausal.MySql
