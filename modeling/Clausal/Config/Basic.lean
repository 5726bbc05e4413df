import Clausal.Error
import Clausal.Text.Blank
/-!
The configuration of a program: how much it logs and which databases it knows by name.
-/

namespace Clausal

/-- How a pool of connections is kept. A lifetime counts seconds; without one connections are kept
for ever. -/
structure PoolSettings where
  maxConnections : UInt32 := 5
  minIdle : UInt32 := 0
  maxLifetime : Option UInt64 := none
deriving DecidableEq

/-- A database with its name, where it is, and what is wished for its pool. A lifetime of zero keeps
connections for ever. -/
structure Database where
  name : String
  dsn : String
  maxConnections : UInt32 := 10
  maxIdle : UInt32 := 0
  maxLifetime : UInt64 := 0
deriving DecidableEq

/-- The settings of the pool of a database. No more connections stay idle than there may be. -/
def Database.poolSettings (d : Database) : PoolSettings where
  maxConnections := d.maxConnections
  minIdle := min d.maxIdle d.maxConnections
  maxLifetime := if d.maxLifetime = 0 then none else some d.maxLifetime

/-- A configuration. Of databases with one name the last counts. -/
structure Config where
  logLevel : String := "info"
  databases : List Database := []
deriving DecidableEq

namespace Config

instance : Inhabited Config := ⟨{}⟩

/-- The database of a name. -/
def database? (config : Config) (name : String) : Option Database :=
  config.databases.reverse.find? fun d => d.name == name

/-- The reason why a database cannot be used, if there is one. -/
def fault? (d : Database) : Option String :=
  if Text.isBlankString d.name then some "database entry without a name"
  else if Text.isBlankString d.dsn then some ("database '" ++ d.name ++ "' has an empty dsn")
  else none

/-- Accepts a configuration whose databases can all be used; names the first fault else. -/
def validate (config : Config) : Except Error Config :=
  match config.databases.findSome? fault? with
  | some reason => .error (.configuration reason)
  | none => .ok config

end Config

end Clausal
