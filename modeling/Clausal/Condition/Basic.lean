import Clausal.Logic
import Clausal.SqlValue.Basic
/-!
Condition trees. A tree says what a predicate means before it is text: raw text, members that are
joined with a connective, and fields that are compared with values.
-/

namespace Clausal

mutual

/-- A node of a condition tree. A sequence and a list of fields take the connective from the node
above; a group has its own. -/
inductive Condition where
  | raw (sql : String)
  | sequence (members : List Condition)
  | fields (entries : List Entry)
  | group (logic : Logic) (members : List Condition)

/-- One entry of a list of fields: a key with a value to compare with, or with a condition of its
own, which makes sense under a connective as key. -/
inductive Entry where
  | value (key : String) (value : SqlValue)
  | nested (key : String) (condition : Condition)

end

instance : Inhabited Entry := ⟨.value "" .null⟩

namespace Entry

/-- The key of an entry. -/
def key : Entry → String
  | .value key _ => key
  | .nested key _ => key

end Entry

namespace Condition

instance : Inhabited Condition := ⟨.sequence []⟩

/-- One field, compared with one value. -/
def field (key : String) (value : SqlValue) : Condition :=
  .fields [.value key value]

/-- Whether a node holds nothing at its own level. -/
def isEmpty : Condition → Bool
  | raw sql => Text.isBlankString sql
  | sequence members => members.isEmpty
  | fields entries => entries.isEmpty
  | group _ members => members.isEmpty

/-- Whether a node is raw text. -/
def isRaw : Condition → Bool
  | raw _ => true
  | _ => false

/-- Whether a node puts its own parentheses around what it becomes. -/
def isDelimited : Condition → Bool
  | sequence _ => true
  | group _ _ => true
  | _ => false

end Condition

/-! ## Lists of fields -/

namespace Entry

/-- Entries that compare fields with values. -/
def ofPairs (pairs : List (String × SqlValue)) : List Entry :=
  pairs.map fun pair => .value pair.1 pair.2

/-- A condition under a connective as key. -/
def under (logic : Logic) (condition : Condition) : Entry :=
  .nested logic.keyword condition

end Entry

/-! ## Groups -/

/-- Members with a connective of their own, built up step by step. -/
structure Group where
  logic : Logic := .and
  members : List Condition := []

namespace Group

/-- The group as a condition. -/
def toCondition (g : Group) : Condition :=
  .group g.logic g.members

/-- Adds any condition. -/
def addCondition (g : Group) (condition : Condition) : Group :=
  { g with members := g.members ++ [condition] }

/-- Adds one comparison. -/
def add (g : Group) (key : String) (value : SqlValue) : Group :=
  g.addCondition (.field key value)

/-- Adds several comparisons as one member; none at all add no member. -/
def addBatch (g : Group) (pairs : List (String × SqlValue)) : Group :=
  if pairs.isEmpty then g else g.addCondition (.fields (Entry.ofPairs pairs))

/-- Adds a group. -/
def addGroup (g inner : Group) : Group :=
  g.addCondition inner.toCondition

/-- Adds raw text; blank text adds nothing. -/
def addRaw (g : Group) (sql : String) : Group :=
  if Text.isBlankString sql then g else g.addCondition (.raw sql)

end Group

end Clausal
