import Clausal.Config.Basic
import Clausal.Execution.Executor
import Clausal.SortedMap
import Clausal.Text.Quoted
/-!
Executors by name. A name stands for a way to get its executor; a pool is opened when it is first
asked for and kept from then on.
-/

namespace Clausal

/-- Where the executor of a name comes from. -/
inductive Source (σ ε : Type) where
  /-- It is asked for anew each time. -/
  | getter (get : Run σ ε)
  /-- It is opened once; an attempt that fails is made again. -/
  | pool (opening : Run σ ε) (opened : Option ε)

/-- Sources by name. -/
structure Registry (σ ε : Type) where
  sources : SortedMap (Source σ ε) := []

namespace Registry

variable {σ ε : Type}

instance : Inhabited (Registry σ ε) := ⟨{}⟩

/-! ## Registration -/

/-- Sets the source of a name; an earlier one is forgotten. -/
def set (registry : Registry σ ε) (name : String) (source : Source σ ε) : Registry σ ε :=
  ⟨registry.sources.insert name source⟩

/-- Registers a way to get an executor. -/
def register (registry : Registry σ ε) (name : String) (get : Run σ ε) : Registry σ ε :=
  registry.set name (.getter get)

/-- Registers an executor that is there already. -/
def registerExecutor (registry : Registry σ ε) (name : String) (executor : ε) : Registry σ ε :=
  registry.register name (pure executor)

/-- Registers a database, whose pool is not opened yet. -/
def registerDatabase (connect : String → PoolSettings → Run σ ε) (registry : Registry σ ε)
    (d : Database) : Registry σ ε :=
  registry.set d.name (.pool (connect d.dsn d.poolSettings) none)

/-- The databases of a configuration. -/
def ofConfig (connect : String → PoolSettings → Run σ ε) (config : Config) : Registry σ ε :=
  config.databases.foldl (registerDatabase connect) {}

/-! ## Look-up -/

/-- Whether a name is registered. -/
def contains (registry : Registry σ ε) (name : String) : Bool :=
  (registry.sources.find? name).isSome

/-- The registered names in ascending order. -/
def names (registry : Registry σ ε) : List String :=
  registry.sources.keys

/-- The executor of a name, and the registry that remembers it if it is of a pool. -/
def get (registry : Registry σ ε) (name : String) :
    StateM σ (Except Error ε × Registry σ ε) := do
  match registry.sources.find? name with
  | none => return (.error (.unknownDatabase name), registry)
  | some (.getter run) => return (← run, registry)
  | some (.pool _ (some executor)) => return (.ok executor, registry)
  | some (.pool opening none) =>
    match ← opening.run with
    | .ok executor => return (.ok executor, registry.set name (.pool opening (some executor)))
    | .error e => return (.error e, registry)

/-- The registry in a diagnostic text. -/
def describe (registry : Registry σ ε) : String :=
  "Registry \x7b names: " ++ Text.quotedList registry.names ++ " \x7d"

end Registry

end Clausal
