import Clausal.Cli.Program
import Clausal.MySql.Dsn
/-!
The command line program. It reads the environment and the files that a run may ask for, lets the
run happen, and prints what the run leaves. It holds no client of a database server, so a run that
needs one ends with a connection error.
-/

namespace Clausal.Main

open Clausal.Cli

/-- The variables of the environment that a run may ask for. -/
def variableNames : List String :=
  ["SQLWEAVE_CONFIG", "RUST_LOG", "XDG_CONFIG_HOME", "HOME"]

/-- The reason of an error, with its number where it is known. -/
def reason : IO.Error → String
  | .noFileOrDirectory .. => "No such file or directory (os error 2)"
  | .permissionDenied .. => "Permission denied (os error 13)"
  | .inappropriateType .. => "Is a directory (os error 21)"
  | e => toString e

/-- The text of a file. -/
def fileText (path : String) : IO (Except Error String) := do
  match ← (IO.FS.readFile path).toBaseIO with
  | .ok text => return .ok text
  | .error e => return .error (.io (reason e))

/-- The world as files and variables that are read already. -/
def world (environment : List (String × String)) (files : List (String × Except Error String)) :
    World where
  environment name := (environment.find? fun entry => entry.1 == name).map Prod.snd
  isFile path := files.any fun entry => entry.1 == path && entry.2.isOk
  fileText path := ((files.find? fun entry => entry.1 == path).map Prod.snd).getD
    (.error (.io "not read"))

/-- Opens nothing: a name that is a URL has no client to connect with. -/
def connect (dsn : String) (_ : PoolSettings) : Run Unit (Executor Unit) :=
  match MySql.Dsn.check dsn with
  | .ok () => throw (.connection "no client for this server")
  | .error failure => throw failure.toError

end Clausal.Main

open Clausal in
/-- Runs the program on its arguments. -/
def main (arguments : List String) : IO UInt32 := do
  let mut environment := []
  for name in Main.variableNames do
    if let some value ← IO.getEnv name then environment := environment ++ [(name, value)]
  let bare := Main.world environment []
  let paths := match Cli.Invocation.read (bare.environment "SQLWEAVE_CONFIG") arguments with
    | .ok invocation => invocation.config.toList ++ bare.candidates
    | .error _ => []
  let files ← paths.mapM fun path => do return (path, ← Main.fileText path)
  let (outcome, ()) := Cli.run (Main.world environment files) Main.connect arguments ()
  IO.print outcome.output
  if !outcome.errors.isEmpty then IO.eprintln outcome.errors
  return outcome.code
