/-!
Why a call fails. Each cause carries what its message needs; the wording of all messages is here.
-/

namespace Clausal

/-- The causes of failure. -/
inductive Error where
  /-- A condition holds something that has no meaning as a condition. -/
  | unsupportedShape (found : String)
  /-- The operator of a field key is none of the known ones. -/
  | unsupportedOperator (symbol : String)
  /-- An operator that takes several values got the wrong number of them. -/
  | operandCount (symbol expected : String) (found : Nat)
  /-- A statement has no table. -/
  | noTable
  /-- A join lacks its table or its condition. -/
  | incompleteJoin
  /-- An update or a deletion has a condition that says nothing. -/
  | emptyCondition
  /-- There is no query text to count the rows of. -/
  | emptyQuery
  /-- A write statement has nothing to write. -/
  | nothingToWrite (reason : String)
  /-- A value cannot stand where it was given. -/
  | invalidValue (reason : String)
  /-- A field key is malformed at a position, which counts bytes. -/
  | malformedKey (position : Nat) (reason : String)
  /-- No database has this name. -/
  | unknownDatabase (name : String)
  | connection (reason : String)
  | execution (reason : String)
  | configuration (reason : String)
  /-- A text is not JSON. -/
  | jsonSyntax
  /-- A text is not TOML, or not of the expected form. -/
  | tomlSyntax
  /-- Input or output failed. -/
  | io (reason : String)
deriving DecidableEq

namespace Error

/-- The message of an error. What exactly is wrong with a JSON or TOML text is not told. -/
def message : Error → String
  | unsupportedShape found => "Unsupported condition shape: " ++ found
  | unsupportedOperator symbol => "Unsupported match operator: '" ++ symbol ++ "'"
  | operandCount symbol expected found =>
    "[" ++ symbol ++ "] value count not qualified: expected " ++ expected ++ ", found " ++
      toString found
  | noTable => "Query table not specified"
  | incompleteJoin => "Join table and condition must both be non-empty"
  | emptyCondition => "Mutation condition can not be empty"
  | emptyQuery => "Query text can not be empty"
  | nothingToWrite reason => "Nothing to write: " ++ reason
  | invalidValue reason => "Invalid value: " ++ reason
  | malformedKey position reason =>
    "Parse error at position " ++ toString position ++ ": " ++ reason
  | unknownDatabase name => "No database registered as '" ++ name ++ "'"
  | connection reason => "Connection error: " ++ reason
  | execution reason => "Execution error: " ++ reason
  | configuration reason => "Configuration error: " ++ reason
  | jsonSyntax => "JSON error:"
  | tomlSyntax => "TOML error:"
  | io reason => "IO error: " ++ reason

/-- The message and the causes below it, from the outside in. An input or output error is its own
cause, so its reason appears twice. -/
def causes : Error → List String
  | io reason => [message (io reason), reason]
  | e => [e.message]

end Error

end Clausal
