import Clausal.Text.Blank
import Clausal.Text.Case
/-!
The two connectives of predicates.
-/

namespace Clausal

/-- How sibling predicates are joined. -/
inductive Logic where
  | and
  | or
deriving DecidableEq

namespace Logic

/-- The keyword of a connective. -/
def keyword : Logic → String
  | and => "AND"
  | or => "OR"

/-- The connective that a field key names, blanks around it and case aside. -/
def ofKey? (key : String) : Option Logic :=
  let word := Text.trim key.toList
  if Text.sameWord word "and".toList then some and
  else if Text.sameWord word "or".toList then some or
  else none

/-- The connective that a free text names: whatever does not name the disjunction is the
conjunction. -/
def ofText (s : String) : Logic :=
  if Text.sameWord (Text.trim s.toList) "or".toList then or else and

end Logic

end Clausal
