import Clausal.Error
/-!
Why a database server, or the way to it, fails, and which error of this library that becomes. What
went wrong on the way is told apart from what the server said.
-/

namespace Clausal.MySql

/-- What goes wrong between a client and a server. -/
inductive Failure where
  /-- The name of the data source makes no sense. -/
  | configuration (reason : String)
  | io (reason : String)
  | tls (reason : String)
  /-- The other side does not keep to the protocol. -/
  | protocol (reason : String)
  | missingColumn (name : String)
  /-- A row is too short for the column that is asked for. -/
  | missingPosition (position length : Nat)
  | poolTimedOut
  | poolClosed
  | noRow
  /-- The value of a column is not of the type that is asked for. -/
  | undecodable (column : Nat)
  /-- The server reports an error with its number and its state. -/
  | server (code : Nat) (state message : String)
deriving DecidableEq

namespace Failure

/-- The message of a failure. -/
def message : Failure → String
  | configuration reason => "error with configuration: " ++ reason
  | io reason => "error communicating with database: " ++ reason
  | tls reason => "error occurred while attempting to establish a TLS connection: " ++ reason
  | protocol reason => "encountered unexpected or invalid data: " ++ reason
  | missingColumn name => "no column found for name: " ++ name
  | missingPosition position length =>
    "column index out of bounds: the len is " ++ toString length ++ ", but the index is " ++
      toString position
  | poolTimedOut => "pool timed out while waiting for an open connection"
  | poolClosed => "attempted to acquire a connection on a closed pool"
  | noRow => "no rows returned by a query that expected to return at least one row"
  | undecodable column => "error occurred while decoding column " ++ toString column
  | server code state message =>
    "error returned from database: " ++ toString code ++ " (" ++ state ++ "): " ++ message

/-- The error of a call that fails this way. Reasons from outside stand alone; all else keeps its
message. -/
def toError : Failure → Error
  | configuration reason => .configuration reason
  | io reason => .io reason
  | tls reason => .connection reason
  | poolTimedOut => .connection poolTimedOut.message
  | poolClosed => .connection poolClosed.message
  | failure => .execution failure.message

/-- The error of a connection that cannot be opened when it is asked for at once. -/
def toConnectionError (failure : Failure) : Error :=
  .connection failure.message

end Failure

end Clausal.MySql
