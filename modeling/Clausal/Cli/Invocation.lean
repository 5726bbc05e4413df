import Clausal.Cli.Arguments
import Clausal.Logic
import Clausal.Text.Numeral
/-!
What a run of the program is asked to do. Two switches may stand before the command and after it;
where both are given, the later one counts.
-/

namespace Clausal.Cli

/-- How a result is shown. -/
inductive Format where
  | table
  | json
deriving DecidableEq

/-- A selection as it is asked for on the command line. Conditions are JSON texts. -/
structure SelectOptions where
  table : String
  columns : String := "*"
  filter : Option String := none
  groupBy : Option String := none
  having : Option String := none
  orderBy : Option String := none
  limit : Option UInt64 := none
  offset : Option UInt64 := none
  page : Option UInt64 := none
  size : UInt64 := 20
  parameterized : Bool := false
  database : String := "default"
  dryRun : Bool := false
  format : Format := .table

/-- What is to be done. -/
inductive Command where
  /-- Shows the predicate of a condition. -/
  | compile (condition : String) (logic : Logic) (parameterized : Bool)
  /-- Shows or runs a selection. -/
  | select (options : SelectOptions)
  /-- Lists the operators. -/
  | operators

/-- A run: its configuration file, if one is named, whether it logs more, and its command. -/
structure Invocation where
  config : Option String
  verbose : Bool
  command : Command

/-! ## Grammars -/

/-- A switch that takes any text. -/
def textSwitch (long : String) (short : Option Char := none) : Switch :=
  ⟨long, short, .value fun _ => true⟩

/-- A switch that takes a number of 64 bits. -/
def numberSwitch (long : String) : Switch :=
  ⟨long, none, .value fun value => (Text.readUInt64? value.toList).isSome⟩

/-- A switch that takes one of several words. -/
def choiceSwitch (long : String) (short : Option Char) (choices : List String) : Switch :=
  ⟨long, short, .value choices.contains⟩

/-- The switches that may stand anywhere. The path of a file is not empty. -/
def commonSwitches : List Switch :=
  [⟨"config", some 'c', .value (!·.isEmpty)⟩, ⟨"verbose", some 'v', .flag⟩,
    ⟨"help", some 'h', .stop .help⟩]

/-- The names of the commands. -/
def commandNames : List String :=
  ["compile", "select", "operators", "help"]

/-- What may stand before the name of a command. -/
def topGrammar : Grammar where
  switches := commonSwitches ++ [⟨"version", some 'V', .stop .version⟩]
  commands := commandNames

/-- What follows the command that shows a predicate. -/
def compileGrammar : Grammar where
  switches := commonSwitches ++
    [choiceSwitch "logic" (some 'l') ["and", "or"], ⟨"params", some 'p', .flag⟩]
  words := 1

/-- What follows the command that shows or runs a selection. -/
def selectGrammar : Grammar where
  switches := commonSwitches ++
    [textSwitch "table" (some 't'), textSwitch "fields", textSwitch "where" (some 'f'),
      textSwitch "group-by", textSwitch "having", textSwitch "order-by", numberSwitch "limit",
      numberSwitch "offset", numberSwitch "page", numberSwitch "size",
      ⟨"params", some 'p', .flag⟩, textSwitch "db", ⟨"dry-run", some 'd', .flag⟩,
      choiceSwitch "format" none ["table", "json"]]

/-- What follows the command that lists the operators. -/
def operatorsGrammar : Grammar where
  switches := commonSwitches

/-! ## Commands -/

/-- The number that a switch gives. -/
def Reading.number? (reading : Reading) (long : String) : Option UInt64 :=
  (reading.value? long).bind fun value => Text.readUInt64? value.toList

/-- Makes the command that shows a predicate. Without its condition it is misused. -/
def compileOf (reading : Reading) : Except Stop Command :=
  match reading.words with
  | [condition] => .ok (.compile condition
      (if reading.value? "logic" = some "or" then .or else .and) (reading.has "params"))
  | _ => .error .misuse

/-- Makes the command that shows or runs a selection. Without its table it is misused. -/
def selectOf (reading : Reading) : Except Stop Command :=
  match reading.value? "table" with
  | none => .error .misuse
  | some table =>
    let base : SelectOptions := { table }
    .ok (.select { base with
      columns := (reading.value? "fields").getD base.columns
      filter := reading.value? "where"
      groupBy := reading.value? "group-by"
      having := reading.value? "having"
      orderBy := reading.value? "order-by"
      limit := reading.number? "limit"
      offset := reading.number? "offset"
      page := reading.number? "page"
      size := (reading.number? "size").getD base.size
      parameterized := reading.has "params"
      database := (reading.value? "db").getD base.database
      dryRun := reading.has "dry-run"
      format := if reading.value? "format" = some "json" then .json else .table })

/-- Reads what follows the name of a command, and makes the command. -/
def readCommand (name : String) (arguments : List String) : Except Stop (Reading × Command) := do
  let (grammar, make) ← match name with
    | "compile" => pure (compileGrammar, compileOf)
    | "select" => pure (selectGrammar, selectOf)
    | "operators" => pure (operatorsGrammar, fun _ => Except.ok Command.operators)
    | _ =>
      if arguments.length ≤ 1 ∧ arguments.all commandNames.contains then throw .help
      else throw .misuse
  let reading ← grammar.read arguments {}
  return (reading, ← make reading)

/-- Reads a command line. The environment may name the configuration file where the command line
does not; what it names is checked at each place where the switch may stand and does not. -/
def Invocation.read (environment : Option String) (arguments : List String) :
    Except Stop Invocation := do
  let top ← topGrammar.read arguments {}
  match top.command with
  | none => throw .misuse
  | some (name, rest) =>
    let (inner, command) ← readCommand name rest
    if environment = some "" ∧ ¬(top.has "config" ∧ inner.has "config") then throw .misuse
    else
      return {
        config := ((inner.value? "config").or (top.value? "config")).or environment
        verbose := top.has "verbose" || inner.has "verbose"
        command }

end Clausal.Cli
