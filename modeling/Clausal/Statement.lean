import Clausal.Fragment
/-!
Finished statements.
-/

namespace Clausal

/-- A statement, with the values bound to its placeholders from left to right. -/
structure Statement where
  sql : String
  params : List SqlValue := []

instance : Inhabited Statement := ⟨⟨"", []⟩⟩

/-- A fragment that needs no more text. -/
def Fragment.toStatement (f : Fragment) : Statement :=
  ⟨f.sql, f.params⟩

end Clausal
