/-!
JSON values. An object keeps its members in the order of their first appearance and holds each name
once; a whole number keeps all its digits as long as 64 bits hold it.
-/

namespace Clausal

/-- A JSON value. -/
inductive Json where
  | null
  | bool (b : Bool)
  | int (n : Int64)
  | uint (n : UInt64)
  | float (x : Float)
  | string (s : String)
  | array (items : List Json)
  | object (members : List (String × Json))

namespace Json

instance : Inhabited Json := ⟨.null⟩

/-- Members with one more written over the member of that name, or else at the end. -/
def insertMember (name : String) (value : Json) : List (String × Json) → List (String × Json)
  | [] => [(name, value)]
  | (other, kept) :: rest =>
    if other = name then (name, value) :: rest
    else (other, kept) :: insertMember name value rest

/-- The members of an object that is written as a list of pairs: the first place and the last value
of each name. -/
def membersOf (pairs : List (String × Json)) : List (String × Json) :=
  pairs.foldl (fun members (name, value) => insertMember name value members) []

/-- The value of a member. -/
def member? (name : String) (members : List (String × Json)) : Option Json :=
  (members.find? fun m => m.1 == name).map Prod.snd

mutual

/-- Equality of values: numbers of different kinds differ, numbers that are not a number differ
from themselves, and the order of members does not count. -/
def same : Json → Json → Bool
  | .null, .null => true
  | .bool a, .bool b => a == b
  | .int a, .int b => a == b
  | .uint a, .uint b => a == b
  | .float a, .float b => a == b
  | .string a, .string b => a == b
  | .array a, .array b => sameItems a b
  | .object a, .object b => a.length == b.length && sameMembers a b
  | _, _ => false

/-- Item by item. -/
def sameItems : List Json → List Json → Bool
  | [], [] => true
  | a :: as, b :: bs => same a b && sameItems as bs
  | _, _ => false

/-- Each member on the left has the same value on the right. -/
def sameMembers : List (String × Json) → List (String × Json) → Bool
  | [], _ => true
  | (name, a) :: as, bs =>
    (match member? name bs with
      | some b => same a b
      | none => false) && sameMembers as bs

end

end Json

end Clausal
