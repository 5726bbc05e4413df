import Clausal.Result
/-!
Results as tables for a reader. Each column is as wide as its widest cell, names included; widths
count characters. Blanks fill a cell at its end, so the marks between columns stand in line.
-/

namespace Clausal.Report

/-- The greatest width that blanks can fill a text up to. -/
def greatestWidth : Nat := 65535

/-- A text with blanks at its end up to a width; a longer text stays whole. -/
def padded (width : Nat) (s : String) : String :=
  s ++ String.ofList (List.replicate (width - s.length) ' ')

namespace Table

/-- Widths that leave room for cells as well. Cells without a column are not shown. -/
def widen : List Nat → List String → List Nat
  | width :: widths, cell :: cells => max width cell.length :: widen widths cells
  | widths, _ => widths

/-- The widths of the columns. -/
def widths (result : QueryResult) : List Nat :=
  result.rows.foldl (fun widths row => widen widths row.values) (result.columns.map String.length)

/-- Cells in one line. -/
def line (widths : List Nat) (cells : List String) : String :=
  String.intercalate " │ " (List.zipWith padded widths cells)

/-- The line between the names and the rows. -/
def rule (widths : List Nat) : String :=
  String.intercalate "─┼─" (widths.map fun width => String.ofList (List.replicate width '─'))

/-- All lines of a table. -/
def lines (result : QueryResult) : List String :=
  let widths := widths result
  line widths result.columns :: rule widths :: result.rows.map fun row => line widths row.values

/-- What is said about the number of rows below a table. -/
def summary (result : QueryResult) (paged : Bool) : String :=
  let shown := toString result.rowCount ++ " row(s) "
  if paged then shown ++ "of " ++ toString result.total.toNat ++ " total, offset " ++
    toString result.offset.toNat
  else shown ++ "returned"

/-- A result with its number of rows. For a page the rows of all pages are counted. There is no table
for a result with a column that is too wide. -/
def report? (result : QueryResult) (paged : Bool) : Option (List String) :=
  if result.isEmpty then
    some ("(no results)" ::
      if paged then [toString result.total.toNat ++ " total row(s)"] else [])
  else if (widths result).all (· ≤ greatestWidth) then
    some (lines result ++ ["", summary result paged])
  else none

end Table

end Clausal.Report
