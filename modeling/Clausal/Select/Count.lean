import Clausal.Select.Selection
import Clausal.Text.Search
/-!
Statements that count rows. A selection is counted without its order and its limit. Text that is
given as a whole is counted up to its last limit clause, which is found by its keyword alone: inside
a literal or a subquery it is found as well.
-/

namespace Clausal

/-- The statement that counts the rows of another. -/
def Statement.counting (inner : Statement) : Statement :=
  ⟨"SELECT COUNT(0) FROM ( " ++ inner.sql ++ " ) a", inner.params⟩

theorem Statement.sql_counting (inner : Statement) :
    inner.counting.sql = "SELECT COUNT(0) FROM ( " ++ inner.sql ++ " ) a" := rfl

/-- The statement that counts the rows of a selection. -/
def Selection.countStatement (s : Selection) : Except Error Statement := do
  let rows ← s.rows
  return rows.toStatement.counting

namespace Statement

/-- The keyword that the text is cut at, in small letters. -/
def limitWord : List Char := " limit ".toList

/-- The text before the last limit clause. A text that starts with one is kept whole. -/
def withoutLimit (cs : List Char) : List Char :=
  match Text.lastPosition? limitWord (Text.lower cs) with
  | some (i + 1) => cs.take (i + 1)
  | _ => cs

/-- The number of placeholders, wherever they stand. -/
def placeholders (cs : List Char) : Nat :=
  cs.count '?'

/-- The statement that counts the rows of a given text. Of the bound values it keeps as many as the
kept text has placeholders. -/
def countStatement (s : Statement) : Except Error Statement :=
  if Text.isBlankString s.sql then .error .emptyQuery
  else
    let kept := withoutLimit s.sql.toList
    .ok (counting ⟨String.ofList kept, s.params.take (placeholders kept)⟩)

end Statement

end Clausal
