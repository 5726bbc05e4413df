import Clausal.Execution.Executor
/-!
An executor that answers from a script. Each statement takes the next reply, whatever it says, and
is noted; when no reply is left it fails.
-/

namespace Clausal.Script

/-- A reply to one statement. -/
inductive Reply where
  | rows (columns : List String) (rows : List (List String))
  | failure (error : Error)

/-- The replies that are left and the statements that were run. -/
structure State where
  replies : List Reply
  ran : List Statement := []

/-- Notes a statement and takes the next reply. -/
def next (statement : Statement) : Run State QueryResult := do
  let state ← get
  set { state with replies := state.replies.drop 1, ran := state.ran ++ [statement] }
  match state.replies with
  | .rows columns rows :: _ => return .ofRows columns rows
  | .failure error :: _ => throw error
  | [] => throw (.execution "script exhausted")

/-- The executor of a script. A statement that writes changes nothing. -/
def executor : Executor State where
  query := next
  execute statement := do
    let _ ← next statement
    return {}

end Clausal.Script
