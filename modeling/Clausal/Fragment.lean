import Clausal.Logic
import Clausal.SqlValue.Basic
/-!
Pieces of statements: text together with the values that are bound to its placeholders, in order.
-/

namespace Clausal

/-- How values reach the text of a statement. -/
inductive Mode where
  /-- As literals in the text. -/
  | inline
  /-- As parameters beside the text, which holds a placeholder for each. -/
  | parameterized
deriving DecidableEq

/-- The placeholder for a bound value. -/
def placeholder : String := "?"

/-- Text and the values bound to its placeholders, from left to right. -/
structure Fragment where
  sql : String := ""
  params : List SqlValue := []

namespace Fragment

instance : Inhabited Fragment := ⟨{}⟩

/-- Text with no values. -/
def ofText (sql : String) : Fragment := ⟨sql, []⟩

instance : Append Fragment where
  append a b := ⟨a.sql ++ b.sql, a.params ++ b.params⟩

/-- Whether there is no text. -/
def isEmpty (f : Fragment) : Bool :=
  f.sql.isEmpty

/-- A value, written as the mode says. -/
def ofValue : Mode → SqlValue → Fragment
  | .inline, v => .ofText v.literal
  | .parameterized, v => ⟨placeholder, [v.param]⟩

/-- Fragments with a separator between them. -/
def intercalate (separator : String) : List Fragment → Fragment
  | [] => {}
  | [f] => f
  | f :: rest => f ++ ofText separator ++ intercalate separator rest

/-- A fragment in parentheses; one without text stays as it is. -/
def parenthesized (f : Fragment) : Fragment :=
  if f.isEmpty then f else ofText "(" ++ f ++ ofText ")"

/-- The fragments that have text, with a connective between them. -/
def join (logic : Logic) (parts : List Fragment) : Fragment :=
  intercalate (" " ++ logic.keyword ++ " ") (parts.filter (!·.isEmpty))

@[simp] theorem sql_append (a b : Fragment) : (a ++ b).sql = a.sql ++ b.sql := rfl

@[simp] theorem params_append (a b : Fragment) : (a ++ b).params = a.params ++ b.params := rfl

@[simp] theorem sql_ofText (s : String) : (ofText s).sql = s := rfl

@[simp] theorem params_ofText (s : String) : (ofText s).params = [] := rfl

end Fragment

end Clausal
