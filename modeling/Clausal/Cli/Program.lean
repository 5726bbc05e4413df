import Clausal.Cli.Invocation
import Clausal.Condition.Json
import Clausal.Config.Read
import Clausal.Logging
import Clausal.Registry
import Clausal.Report.Operators
import Clausal.Report.Statement
import Clausal.Select.Terminal
/-!
The program behind the command line, as a function of its arguments, of the world around it and of
the way to connect to databases. A run prints lines or fails with an error; it never does both. A
dry run prints the statements that the run itself would send.
-/

namespace Clausal.Cli

/-- The name of the program. -/
def programName : String := "sqlweave"

/-- The version of the program. -/
def programVersion : String := "0.3.0"

/-! ## Failures -/

/-- Why a run ends without its lines. -/
inductive Failure where
  /-- An error, and what the program was about when it came up. -/
  | failed (context : List String) (error : Error)
  /-- The program breaks down over a column that is too wide for a table. -/
  | tooWide

namespace Failure

/-- The message of a failure: what the program was about, the error and its causes. -/
def message : Failure → String
  | failed context error => "Error: " ++ String.intercalate ": " (context ++ error.causes)
  | tooWide => "Formatting argument out of range"

/-- The exit code of a failure. -/
def code : Failure → UInt32
  | failed .. => 1
  | tooWide => 101

end Failure

/-- An outcome whose error tells what the program was about. -/
def during {α : Type} (context : String) : Except Error α → Except Failure α
  | .ok a => .ok a
  | .error error => .error (.failed [context] error)

/-- An outcome whose error stands alone. -/
def plainly {α : Type} : Except Error α → Except Failure α
  | .ok a => .ok a
  | .error error => .error (.failed [] error)

/-! ## Predicates -/

/-- Shows the predicate of a condition. -/
def compile (condition : String) (logic : Logic) (parameterized : Bool) :
    Except Failure (List String) := do
  let condition ← during "invalid condition" (Condition.read condition)
  if parameterized then
    let fragment ← plainly (condition.bound logic)
    return Report.statement fragment.toStatement
  else
    let sql ← plainly (condition.inlineText logic)
    return [if sql.isEmpty then "(empty condition)" else sql]

/-! ## Selections -/

namespace SelectOptions

/-- Reads a condition, if there is one. -/
def condition? (context : String) : Option String → Except Failure (Option Condition)
  | none => .ok none
  | some text => some <$> during context (Condition.read text)

/-- The querier of the options. A page replaces the offset and the limit. -/
def querier (o : SelectOptions) : Except Failure Querier := do
  let filter ← condition? "invalid --where" o.filter
  let having ← condition? "invalid --having" o.having
  let selection : Selection := {
    columns := o.columns
    table := o.table
    filter
    groupBy := o.groupBy.getD ""
    having
    orderBy := o.orderBy.getD ""
    offset := o.offset.getD 0
    limit := o.limit.getD 0
    rendering := { mode := if o.parameterized then .parameterized else .inline } }
  let querier : Querier := { query := { selection } }
  return match o.page with
    | some page => querier.paginate page o.size
    | none => querier

/-- Shows the statements of a querier: the one that counts, if a page is asked for, and the one that
fetches. -/
def preview (o : SelectOptions) (querier : Querier) : Except Error (List String) := do
  let counting ← if o.page.isSome then some <$> querier.countStatement else pure none
  let fetching ← querier.build.1
  return (match counting with
    | some counting => "Count SQL:" :: Report.statement counting ++ [""]
    | none => []) ++ "Generated SQL:" :: Report.statement fetching

/-- Runs a querier on an executor. -/
def fetch {σ : Type} (o : SelectOptions) (executor : Executor σ) : Terminal σ QueryResult :=
  match o.page with
  | some page => Querier.runPage executor page o.size
  | none => Querier.runQuery executor

/-- Shows a result. -/
def report (o : SelectOptions) (result : QueryResult) : Except Failure (List String) :=
  match o.format with
  | .table =>
    match Report.Table.report? result o.page.isSome with
    | some lines => .ok lines
    | none => .error .tooWide
  | .json => .ok [result.toJson.pretty]

/-- The remark that a database is not configured. -/
def unknownDatabase (name : String) : List String :=
  ["", "⚠ No database '" ++ name ++ "' configured. Add it to " ++ programName ++ ".toml"]

end SelectOptions

/-- Something the program does on a state of the executors; the state is kept when it fails. -/
abbrev Task (σ : Type) := ExceptT Failure (StateM σ)

namespace Task

variable {σ α : Type}

/-- An outcome that needs no executor. -/
def ofExcept (outcome : Except Failure α) : Task σ α :=
  ExceptT.mk (pure outcome)

/-- A run on an executor, of whose results only the first counts. -/
def ofState {β : Type} (run : StateM σ (Except Error α × β)) : Task σ α :=
  ExceptT.mk (do return plainly (← run).1)

end Task

variable {σ : Type}

/-- Shows or runs a selection. It is only shown in a dry run and when its database is unknown. -/
def select (connect : String → PoolSettings → Run σ (Executor σ)) (config : Config)
    (o : SelectOptions) : Task σ (List String) := do
  let querier ← Task.ofExcept o.querier
  let known := (config.database? o.database).isSome
  if o.dryRun || !known then
    let lines ← Task.ofExcept (plainly (o.preview querier))
    return if o.dryRun then lines else lines ++ SelectOptions.unknownDatabase o.database
  else
    let executor ← Task.ofState ((Registry.ofConfig connect config).get o.database)
    let result ← Task.ofState (Querier.run (o.fetch executor) querier)
    Task.ofExcept (o.report result)

/-! ## The world around -/

/-- What the program sees of the world: variables of the environment, and files by their paths. -/
structure World where
  environment : String → Option String
  /-- Whether a path leads to a regular file. -/
  isFile : String → Bool
  /-- The text of a file. -/
  fileText : String → Except Error String

/-- A path below another. -/
def joinPath (base name : String) : String :=
  if base.isEmpty || base.endsWith "/" then base ++ name else base ++ "/" ++ name

/-- The directory of the user's configuration files. -/
def World.configDirectory? (world : World) : Option String :=
  match (world.environment "XDG_CONFIG_HOME").filter (·.startsWith "/") with
  | some directory => some directory
  | none => ((world.environment "HOME").filter (!·.isEmpty)).map (joinPath · ".config")

/-- The configuration files to look for, when none is named: one in the working directory, and the
user's. -/
def World.candidates (world : World) : List String :=
  (programName ++ ".toml") :: (world.configDirectory?.map fun directory =>
    joinPath (joinPath directory programName) "config.toml").toList

/-- Reads the configuration. A file that is named must be there; if none is found there is a default
configuration. -/
def World.loadConfig (world : World) (named : Option String) : Except Error Config :=
  match named.or (world.candidates.find? world.isFile) with
  | some path => do Config.readNamed path (← world.fileText path)
  | none => .ok {}

/-! ## Runs -/

/-- What a run leaves: its exit code and what it prints. -/
structure Outcome where
  code : UInt32 := 0
  output : String := ""
  errors : String := ""

/-- Lines as text. -/
def linesText (lines : List String) : String :=
  String.join (lines.map (· ++ "\n"))

/-- Does what a run is asked for. -/
def perform (world : World) (connect : String → PoolSettings → Run σ (Executor σ))
    (invocation : Invocation) : Task σ (List String) := do
  let config ← Task.ofExcept
    (during "failed to load configuration" (world.loadConfig invocation.config))
  Task.ofExcept (plainly (Logging.check (world.environment "RUST_LOG")
    (if invocation.verbose then "debug" else config.logLevel)))
  match invocation.command with
  | .compile condition logic parameterized =>
    Task.ofExcept (compile condition logic parameterized)
  | .select options => select connect config options
  | .operators => return Report.operators (programName ++ " match operators")

/-- The outcome of a command line that is read no further. -/
def stopped : Stop → Outcome
  | .version => { output := linesText [programName ++ " " ++ programVersion] }
  | .help => { output := linesText ["Usage: " ++ programName ++ " [OPTIONS] <COMMAND>"] }
  | .misuse => { code := 2, errors := "Usage: " ++ programName ++ " [OPTIONS] <COMMAND>" }

/-- A whole run of the program. -/
def run (world : World) (connect : String → PoolSettings → Run σ (Executor σ))
    (arguments : List String) : StateM σ Outcome := do
  match Invocation.read (world.environment "SQLWEAVE_CONFIG") arguments with
  | .error reason => return stopped reason
  | .ok invocation =>
    match ← (perform world connect invocation).run with
    | .ok lines => return { output := linesText lines }
    | .error failure => return { code := failure.code, errors := failure.message }

end Clausal.Cli
