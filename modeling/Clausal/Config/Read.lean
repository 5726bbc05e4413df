import Clausal.Config.Basic
import Clausal.Toml.Reader
/-!
Reading a configuration from a document. Unknown keys are passed over; known ones must have exactly
the type that is expected. A record may be given as a table, or as an array of its fields in order.
-/

namespace Clausal.Config

/-! ## Fields -/

/-- The values that a record gives to fields. A date has no fields. -/
def fields? (names : List String) : Toml → Option (List (Option Toml))
  | .table _ members => some (names.map fun name => Toml.find? name members)
  | .array items => some ((List.range names.length).map fun i => items[i]?)
  | .tables items => some ((List.range names.length).map fun i => items[i]?.map (.table .header))
  | .moment _ => some (names.map fun _ => none)
  | _ => none

/-- A string. -/
def string? : Toml → Option String
  | .string s => some s
  | _ => none

/-- A number of 32 bits. -/
def uint32? : Toml → Option UInt32
  | .integer n =>
    if 0 ≤ n.toInt ∧ n.toInt < UInt32.size then some (UInt32.ofNat n.toInt.toNat) else none
  | _ => none

/-- A number of 64 bits. -/
def uint64? : Toml → Option UInt64
  | .integer n => if 0 ≤ n.toInt then some (UInt64.ofNat n.toInt.toNat) else none
  | _ => none

/-- The value of a field that may be missing. -/
def orDefault {α : Type} (default : α) (read : Toml → Option α) : Option Toml → Option α
  | none => some default
  | some value => read value

/-! ## Records -/

/-- How much is logged. -/
def logging? (value : Toml) : Option String := do
  match ← fields? ["level"] value with
  | [level] => orDefault ({} : Config).logLevel string? level
  | _ => none

/-- The keys of a database. -/
def databaseKeys : List String :=
  ["name", "dsn", "max_conns", "max_idles", "max_lifetime"]

/-- A database. Its name and its place are required. -/
def ofFields? : List (Option Toml) → Option Database
  | [some name, some dsn, maxConnections, maxIdle, maxLifetime] => do
    let base : Database := { name := ← string? name, dsn := ← string? dsn }
    return { base with
      maxConnections := ← orDefault base.maxConnections uint32? maxConnections
      maxIdle := ← orDefault base.maxIdle uint32? maxIdle
      maxLifetime := ← orDefault base.maxLifetime uint64? maxLifetime }
  | _ => none

/-- A database, given as a record. -/
def ofToml? (value : Toml) : Option Database :=
  (fields? databaseKeys value).bind ofFields?

/-- Several databases. -/
def databases? : Toml → Option (List Database)
  | .array items => items.mapM ofToml?
  | .tables items => items.mapM fun members => ofToml? (.table .header members)
  | _ => none

/-- The configuration of a document. -/
def ofMembers? (members : Toml.Members) : Option Config := do
  let default : Config := {}
  return {
    logLevel := ← orDefault default.logLevel logging? (Toml.find? "logging" members)
    databases := ← orDefault default.databases databases? (Toml.find? "database" members) }

/-- Reads and validates a configuration. -/
def read (text : String) : Except Error Config :=
  match (Toml.read? text).bind ofMembers? with
  | some config => config.validate
  | none => .error .tomlSyntax

/-- Reads the configuration of a file; what is wrong with it names the file. -/
def readNamed (path text : String) : Except Error Config :=
  match read text with
  | .error (.configuration reason) => .error (.configuration (path ++ ": " ++ reason))
  | outcome => outcome

end Clausal.Config
