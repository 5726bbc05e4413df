import Clausal.Execution.Executor
import Clausal.Select.Querier
import Clausal.SortedMap
/-!
Running queriers. Each way to run one builds its statements first, so a querier that cannot be built
reaches no executor; what it changes in the querier, the limit or the page, stays changed.
-/

namespace Clausal

/-- A run that may change its querier. The querier and the state of the executor are kept when it
fails. -/
abbrev Terminal (σ : Type) := ExceptT Error (StateT Querier (StateM σ))

namespace Terminal

variable {σ : Type}

/-- A run that leaves the querier alone. -/
def ofRun {α : Type} (run : Run σ α) : Terminal σ α :=
  fun querier => do
    let outcome ← run
    return (outcome, querier)

/-- Changes the querier. -/
def change (f : Querier → Querier) : Terminal σ Unit :=
  fun querier => return (.ok (), f querier)

/-- The statement of the querier, which remembers it. -/
def statement : Terminal σ Statement :=
  fun querier => return querier.build

/-- The counting statement of the querier. -/
def countStatement : Terminal σ Statement :=
  fun querier => return (querier.countStatement, querier)

end Terminal

namespace Querier

variable {σ : Type}

/-- All of the answer. -/
def runQuery (executor : Executor σ) : Terminal σ QueryResult := do
  let statement ← Terminal.statement
  Terminal.ofRun (executor.query statement)

/-- The first row. It sets the limit to one. -/
def runRow (executor : Executor σ) : Terminal σ (Option Row) := do
  Terminal.change (·.limit 1)
  let result ← runQuery executor
  return result.rows.head?

/-- The first value of the first row, or the empty text. -/
def runScalar (executor : Executor σ) : Terminal σ String := do
  let result ← runQuery executor
  return (result.rows.head?.bind Row.first?).getD ""

/-- All rows. -/
def runAll (executor : Executor σ) : Terminal σ (List Row) := do
  let result ← runQuery executor
  return result.rows

/-- Rows by the text of a column. Rows without the column are left out; the last row of each text
is kept. -/
def rowsByColumn (column : String) (rows : List Row) : SortedMap Row :=
  rows.foldl (fun found row =>
    match row.get? column with
    | some key => found.insert key row
    | none => found) []

/-- The rows of the answer by the text of a column. -/
def runAssociated (executor : Executor σ) (column : String) : Terminal σ (SortedMap Row) := do
  let result ← runQuery executor
  return rowsByColumn column result.rows

/-- The number of rows, limit aside. -/
def runCount (executor : Executor σ) : Terminal σ UInt64 := do
  let statement ← Terminal.countStatement
  Terminal.ofRun (executor.count statement)

/-- One page, the number of its rows and the number of rows of all pages. A given text keeps its own
limit, so its rows are told to start at zero. -/
def runPage (executor : Executor σ) (page size : UInt64) : Terminal σ QueryResult := do
  Terminal.change (·.paginate page size)
  let counting ← Terminal.countStatement
  let fetching ← Terminal.statement
  let querier ← get
  let (total, result) ← Terminal.ofRun (executor.page counting fetching)
  return { result with
    total
    offset := if querier.isGiven then 0 else pageOffset page size
    rowCount := result.rows.length }

/-- Runs a terminal on a querier and a state. -/
def run {α : Type} (terminal : Terminal σ α) (querier : Querier) (state : σ) :
    (Except Error α × Querier) × σ :=
  terminal querier state

end Querier

end Clausal
