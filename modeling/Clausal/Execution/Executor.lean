import Clausal.Result
import Clausal.Statement
/-!
Executors: whatever runs statements. An executor acts on a state of its own, which outlasts errors.
-/

namespace Clausal

/-- A run that may fail; the state is kept either way. -/
abbrev Run (σ : Type) := ExceptT Error (StateM σ)

namespace Run

variable {σ : Type}

/-- Runs the counting statement and reads its number. -/
def count (query : Statement → Run σ QueryResult) (statement : Statement) : Run σ UInt64 := do
  let result ← query statement
  result.count

/-- Counts first and fetches second. -/
def page (count : Statement → Run σ UInt64) (query : Statement → Run σ QueryResult)
    (counting fetching : Statement) : Run σ (UInt64 × QueryResult) := do
  let total ← count counting
  let result ← query fetching
  return (total, result)

end Run

/-- Something that runs statements on a state. One with a way of its own to count or to fetch a page
says so. The others read the count from the rows of its statement, and for a page they count first
and fetch second. -/
structure Executor (σ : Type) where
  query : Statement → Run σ QueryResult
  execute : Statement → Run σ WriteResult
  count : Statement → Run σ UInt64 := Run.count query
  page : Statement → Statement → Run σ (UInt64 × QueryResult) := Run.page count query

end Clausal
