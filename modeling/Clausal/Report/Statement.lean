import Clausal.Statement
/-!
Statements for a reader: the text, and below it the bound values as literals, numbered from one.
-/

namespace Clausal.Report

/-- One bound value with its number. -/
def binding (number : Nat) (value : SqlValue) : String :=
  "  ?" ++ toString number ++ " = " ++ value.literal

/-- The bound values of a statement; nothing if there are none. -/
def bindings (params : List SqlValue) : List String :=
  if params.isEmpty then []
  else "Bindings:" :: (params.zipIdx 1).map fun (value, number) => binding number value

/-- A statement. -/
def statement (s : Statement) : List String :=
  s.sql :: bindings s.params

end Clausal.Report
