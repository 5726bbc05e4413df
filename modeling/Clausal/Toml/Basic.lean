/-!
Configuration documents as trees of tables. A document is made line by line, and each line may only
add: a key is set once, a table is named by one header, and what stands in braces is finished. How
a table came about decides what may still be added to it.
-/

namespace Clausal

/-- How a table came about. -/
inductive TableOrigin where
  /-- A header names it, or it is the document itself. -/
  | header
  /-- It lies on the way of a header to another table; a header may still name it. -/
  | path
  /-- Dotted keys made it. -/
  | dotted
  /-- It was written in braces and is finished. -/
  | braces
deriving DecidableEq

/-- A value of a document. -/
inductive Toml where
  | string (s : String)
  | integer (n : Int64)
  | float (x : Float)
  | bool (b : Bool)
  /-- A date, a time or both, as it is written. -/
  | moment (text : String)
  | array (items : List Toml)
  | table (origin : TableOrigin) (members : List (String × Toml))
  /-- Tables that headers have added one by one. -/
  | tables (items : List (List (String × Toml)))

namespace Toml

instance : Inhabited Toml := ⟨.bool false⟩

/-- The members of a table in the order of their first appearance. -/
abbrev Members := List (String × Toml)

/-- The value of a key. -/
def find? (key : String) (members : Members) : Option Toml :=
  (members.find? fun m => m.1 == key).map Prod.snd

/-! ## Changes -/

/-- Changes the value of a key, which may be missing. -/
def change (key : String) (f : Option Toml → Option Toml) : Members → Option Members
  | [] => do return [(key, ← f none)]
  | (other, value) :: rest =>
    if other = key then do return (key, ← f (some value)) :: rest
    else do return (other, value) :: (← change key f rest)

/-- Changes the last of several tables. -/
def changeLast (f : Members → Option Members) : List Members → Option (List Members)
  | [] => none
  | [last] => do return [← f last]
  | first :: rest => do return first :: (← changeLast f rest)

/-- Changes the members of the table at a path; the change is told how that table came about. Tables
that are missing on the way are made. A header leads through all tables that are not finished,
dotted keys through no table that a header names; where tables are added one by one both lead to the
last. -/
def changeAt (dotted : Bool) (f : TableOrigin → Members → Option Members) :
    List String → TableOrigin → Members → Option Members
  | [], origin, members => f origin members
  | key :: rest, _, members => members |> change key fun
    | none =>
      let origin := if dotted then .dotted else .path
      (changeAt dotted f rest origin []).map (table origin)
    | some (table origin inner) =>
      if origin = .braces ∨ (dotted ∧ origin = .header) then none
      else (changeAt dotted f rest origin inner).map (table origin)
    | some (tables items) => (changeLast (changeAt dotted f rest .header) items).map tables
    | some _ => none

/-- Sets a key that is not set yet. -/
def setNew (key : String) (value : Toml) : Members → Option Members :=
  change key fun
    | none => some value
    | some _ => none

/-! ## Lines -/

/-- What a line says. The last part of a path is the key itself. -/
inductive Line where
  | header (path : List String) (key : String)
  | nextTable (path : List String) (key : String)
  | assign (path : List String) (key : String) (value : Toml)

/-- Sets a key, reached by dotted keys from the table that lines belong to. -/
def assign (path : List String) (key : String) (value : Toml) (origin : TableOrigin)
    (members : Members) : Option Members :=
  changeAt true (fun reached members =>
    if path.isEmpty ∨ reached = .dotted then setNew key value members else none) path origin members

/-- Names a table by a header. -/
def define (path : List String) (key : String) : Members → Option Members :=
  changeAt false (fun _ => change key fun
    | none => some (table .header [])
    | some (table .path inner) => some (table .header inner)
    | some _ => none) path .header

/-- Adds an empty table to those of a name. -/
def addTable (path : List String) (key : String) : Members → Option Members :=
  changeAt false (fun _ => change key fun
    | none => some (tables [[]])
    | some (tables items) => some (tables (items ++ [[]]))
    | some _ => none) path .header

/-- A document while it is made: what it holds, and the table that the next line belongs to. -/
structure Draft where
  members : Members := []
  current : List String := []

/-- A draft with one more line. -/
def Draft.add (draft : Draft) : Line → Option Draft
  | .header path key => do return ⟨← define path key draft.members, path ++ [key]⟩
  | .nextTable path key => do return ⟨← addTable path key draft.members, path ++ [key]⟩
  | .assign path key value => do
    let members ← changeAt false (assign path key value) draft.current .header draft.members
    return { draft with members }

/-- The document of several lines. -/
def ofLines (lines : List Line) : Option Members :=
  (lines.foldlM Draft.add {}).map Draft.members

/-- The finished table of several assignments in braces. -/
def ofAssignments (assignments : List (List String × String × Toml)) : Option Toml :=
  (assignments.foldlM (fun members (path, key, value) => assign path key value .braces members)
    []).map (table .braces)

end Toml

end Clausal
