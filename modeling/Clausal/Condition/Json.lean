import Clausal.Condition.Basic
import Clausal.Json.Reader
/-!
Conditions written as JSON. A string is raw text, an array a sequence, an object a list of fields
in which a connective as key holds a condition; null is the empty condition. Numbers and truth
values say nothing as a condition.
-/

namespace Clausal.Condition

mutual

/-- Reads a JSON value as a condition. -/
def ofJson : Json → Except Error Condition
  | .null => .ok (.sequence [])
  | .string s => .ok (.raw s)
  | .array items => do return .sequence (← ofJsonItems items)
  | .object members => do return .fields (← ofJsonMembers members)
  | .bool b => .error (.unsupportedShape ("bool " ++ if b then "true" else "false"))
  | .int n => .error (.unsupportedShape ("number " ++ (Json.int n).compact))
  | .uint n => .error (.unsupportedShape ("number " ++ (Json.uint n).compact))
  | .float x => .error (.unsupportedShape ("number " ++ (Json.float x).compact))

/-- Reads the items of an array, each as a condition. -/
def ofJsonItems : List Json → Except Error (List Condition)
  | [] => .ok []
  | item :: rest => do
    let condition ← ofJson item
    return condition :: (← ofJsonItems rest)

/-- Reads the members of an object, each as an entry. -/
def ofJsonMembers : List (String × Json) → Except Error (List Entry)
  | [] => .ok []
  | (key, value) :: rest =>
    match Logic.ofKey? key with
    | some _ => do
      let condition ← ofJson value
      return .nested key condition :: (← ofJsonMembers rest)
    | none => do return .value key (.ofJson value) :: (← ofJsonMembers rest)

end

/-- Reads a JSON text as a condition. -/
def read (text : String) : Except Error Condition :=
  match Json.read? text with
  | some value => ofJson value
  | none => .error .jsonSyntax

/-- The name of a connective as a tag. -/
def logicTag : Logic → String
  | .and => "And"
  | .or => "Or"

mutual

/-- A condition as a tagged JSON value, which tells all kinds of nodes apart. -/
def toJson : Condition → Json
  | .raw sql => .object [("Raw", .string sql)]
  | .sequence members => .object [("Sequence", .array (toJsonItems members))]
  | .fields entries => .object [("Fields", .array (toJsonEntries entries))]
  | .group logic members =>
    .object [("Group", .object
      [("logic", .string (logicTag logic)), ("members", .array (toJsonItems members))])]

/-- Members as JSON. -/
def toJsonItems : List Condition → List Json
  | [] => []
  | member :: rest => toJson member :: toJsonItems rest

/-- Entries as JSON. -/
def toJsonEntries : List Entry → List Json
  | [] => []
  | .value key value :: rest =>
    .object [("key", .string key), ("operand", value.toJson)] :: toJsonEntries rest
  | .nested key condition :: rest =>
    .object [("key", .string key), ("operand", toJson condition)] :: toJsonEntries rest

end

end Clausal.Condition
