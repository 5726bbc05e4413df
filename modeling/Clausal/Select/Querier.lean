import Clausal.Saturating
import Clausal.Select.Count
/-!
Queriers: selections that are built up step by step. A querier remembers the statement it was last
built into and forgets it with every change. A querier over a given text keeps that text and ignores
the selection, except that a filter makes its rows be counted by the selection.
-/

namespace Clausal

/-- What a querier asks for. -/
structure Query where
  /-- A text given as a whole, with the values bound to it. -/
  given : Option Statement := none
  selection : Selection := {}

instance : Inhabited Query := ⟨{}⟩

namespace Query

/-- The statement that fetches the rows. -/
def statement (q : Query) : Except Error Statement :=
  match q.given with
  | some given => .ok given
  | none => q.selection.statement

/-- The count of a given text; without one there is nothing to count. -/
def givenCount (q : Query) : Except Error Statement :=
  match q.given with
  | some given => given.countStatement
  | none => .error .emptyQuery

/-- The statement that counts the rows. -/
def countStatement (q : Query) : Except Error Statement :=
  if q.given.isSome && q.selection.filter.isNone then q.givenCount
  else q.selection.countStatement

end Query

/-- A query, and the statement it was last built into. -/
structure Querier where
  query : Query := {}
  memo : Option Statement := none

instance : Inhabited Querier := ⟨{}⟩

namespace Querier

/-- A querier over a given text. -/
def ofText (sql : String) : Querier :=
  { query := { given := some ⟨sql, []⟩ } }

/-- Whether the text was given as a whole. -/
def isGiven (q : Querier) : Bool :=
  q.query.given.isSome

/-- Whether there is a filter, even one that says nothing. -/
def hasFilter (q : Querier) : Bool :=
  q.query.selection.filter.isSome

/-! ## Changes -/

/-- Changes the query and forgets the statement. -/
def modify (q : Querier) (change : Query → Query) : Querier :=
  { query := change q.query, memo := none }

/-- Changes the selection and forgets the statement. -/
def modifySelection (q : Querier) (change : Selection → Selection) : Querier :=
  q.modify fun query => { query with selection := change query.selection }

/-- Binds the next value of a given text; without one nothing is bound. -/
def bind (q : Querier) (value : SqlValue) : Querier :=
  q.modify fun query =>
    { query with given := query.given.map fun s => { s with params := s.params ++ [value] } }

/-- Sets the text of the columns to fetch. -/
def select (q : Querier) (columns : String) : Querier :=
  q.modifySelection ({ · with columns })

/-- Sets the table to fetch from. -/
def table (q : Querier) (table : String) : Querier :=
  q.modifySelection ({ · with table })

/-- Joins one more table. -/
def join (q : Querier) (kind : JoinKind) (table on : String) : Querier :=
  q.modifySelection fun s => { s with joins := s.joins ++ [⟨kind, table, on⟩] }

/-- Sets the condition on the rows; it replaces an earlier one. -/
def filter (q : Querier) (condition : Condition) : Querier :=
  q.modifySelection ({ · with filter := some condition })

/-- Sets the text of the grouping. -/
def groupBy (q : Querier) (groupBy : String) : Querier :=
  q.modifySelection ({ · with groupBy })

/-- Sets the condition on the groups, which counts only where there is a grouping. -/
def having (q : Querier) (condition : Condition) : Querier :=
  q.modifySelection ({ · with having := some condition })

/-- Sets the text of the order. -/
def orderBy (q : Querier) (orderBy : String) : Querier :=
  q.modifySelection ({ · with orderBy })

/-- Sets how many rows are passed over. -/
def offset (q : Querier) (offset : UInt64) : Querier :=
  q.modifySelection ({ · with offset })

/-- Sets the limit; zero is none. -/
def limit (q : Querier) (limit : UInt64) : Querier :=
  q.modifySelection ({ · with limit })

/-- Binds the values of conditions instead of writing them as literals. -/
def parameterized (q : Querier) : Querier :=
  q.modifySelection fun s => { s with rendering := { s.rendering with mode := .parameterized } }

/-- Replaces the hooks on the values of conditions. -/
def withHooks (q : Querier) (hooks : Hooks) : Querier :=
  q.modifySelection fun s => { s with rendering := { s.rendering with hooks } }

/-- How many rows lie before a page. Pages count from one; page zero is the first. -/
def pageOffset (page size : UInt64) : UInt64 :=
  Saturating.mul (max page 1 - 1) size

/-- Selects one page. -/
def paginate (q : Querier) (page size : UInt64) : Querier :=
  (q.offset (pageOffset page size)).limit size

/-! ## Statements -/

/-- The statement that fetches the rows, remembered if there is one. -/
def build (q : Querier) : Except Error Statement × Querier :=
  match q.memo with
  | some statement => (.ok statement, q)
  | none =>
    match q.query.statement with
    | .ok statement => (.ok statement, { q with memo := some statement })
    | .error e => (.error e, q)

/-- The statement that counts the rows. -/
def countStatement (q : Querier) : Except Error Statement :=
  q.query.countStatement

end Querier

end Clausal
