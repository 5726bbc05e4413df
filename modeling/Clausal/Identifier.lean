import Clausal.Text.Blank
/-!
Names of columns and tables inside statements. A name stands in backticks, a dotted name part by
part; backticks of its own are dropped, so nothing inside a name can end it.
-/

namespace Clausal.Identifier

open Clausal.Text

/-- The quote of identifiers. -/
def backtick : Char := '\x60'

/-- A text without its backticks. -/
def dropBackticks (cs : List Char) : List Char :=
  cs.filter (· != backtick)

/-- One part of a dotted name. A star stands for all columns and stays bare. -/
def quotePart (part : List Char) : List Char :=
  let name := dropBackticks (trim part)
  if name = ['*'] then name else backtick :: name ++ [backtick]

/-- A name, quoted part by part. -/
def quoteChars (name : List Char) : List Char :=
  List.intercalate ['.'] ((name.splitOn '.').map quotePart)

/-- A name as it stands in a statement. -/
def quote (name : String) : String :=
  String.ofList (quoteChars name.toList)

/-- A table as it stands in a statement: its name quoted, and what follows the first blank, an
alias, as it is. -/
def quoteTableChars (table : List Char) : List Char :=
  let reference := trim table
  match reference.dropWhile (!isBlank ·) with
  | [] => quoteChars table
  | _ :: rest => quoteChars (reference.takeWhile (!isBlank ·)) ++ ' ' :: trim rest

/-- A table as it stands in a statement. -/
def quoteTable (table : String) : String :=
  String.ofList (quoteTableChars table.toList)

theorem backtick_not_mem_dropBackticks (cs : List Char) : backtick ∉ dropBackticks cs := by
  simp [dropBackticks]

end Clausal.Identifier
