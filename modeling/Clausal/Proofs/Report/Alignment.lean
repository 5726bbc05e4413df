import Clausal.Cli.Program
import Mathlib.Algebra.GroupWithZero.Nat
import Mathlib.Data.List.Forall2
/-!
# Lines of a table

A table shows its names, a rule and its rows. Its lines are made of pieces that are as wide as the
columns, with a mark of three characters between any two, so a column starts after the same number
of characters in each line. A column is as wide as the longest of its name and its values: its cells
are filled up with blanks, and none is cut. There is no table where a column is wider than blanks
can fill.
-/

namespace Clausal.Report.Table

/-! ## Pieces and marks -/

/-- The number of characters before a column. -/
def start (widths : List Nat) (i : Nat) : Nat :=
  (widths.take i).sum + 3 * i

@[simp] theorem start_zero (widths : List Nat) : start widths 0 = 0 := rfl

theorem start_cons_succ (width : Nat) (widths : List Nat) (i : Nat) :
    start (width :: widths) (i + 1) = width + (3 + start widths i) := by
  unfold start
  rw [List.take_succ_cons, List.sum_cons]
  omega

/-- A line that shows one piece in each column and a mark between any two columns, and nothing
else. -/
structure Places (widths : List Nat) (mark : List Char) (pieces : List (List Char))
    (line : List Char) : Prop where
  /-- Each piece is as wide as its column. -/
  filled : pieces.map List.length = widths
  length : line.length = widths.sum + 3 * (widths.length - 1)
  piece : ∀ i width, widths[i]? = some width →
    pieces[i]? = some ((line.drop (start widths i)).take width)
  /-- A mark stands behind each column but the last. -/
  mark : ∀ i width, widths[i]? = some width → i + 1 < widths.length →
    (line.drop (start widths i + width)).take 3 = mark

section

variable {mark : List Char}

theorem length_intercalate (three : mark.length = 3) (pieces : List (List Char)) :
    (mark.intercalate pieces).length =
      (pieces.map List.length).sum + 3 * (pieces.length - 1) := by
  induction pieces with
  | nil => rfl
  | cons piece pieces ih =>
    rcases pieces with - | ⟨next, rest⟩
    · simp
    · rw [List.intercalate_cons_cons, List.length_append, List.length_append, ih, three]
      simp only [List.map_cons, List.sum_cons, List.length_cons]
      omega

/-- What stands from the start of a column on is the line of the pieces from there on. -/
theorem drop_start (three : mark.length = 3) {pieces : List (List Char)} {i : Nat}
    (inside : i < pieces.length) :
    (mark.intercalate pieces).drop (start (pieces.map List.length) i) =
      mark.intercalate (pieces.drop i) := by
  induction i generalizing pieces with
  | zero => rfl
  | succ i ih =>
    rcases pieces with - | ⟨piece, - | ⟨next, rest⟩⟩
    · contradiction
    · simp at inside
    · have inside : i < (next :: rest).length := Nat.lt_of_succ_lt_succ inside
      rw [List.map_cons, start_cons_succ, List.intercalate_cons_cons, List.append_assoc,
        ← List.drop_drop, List.drop_left, ← List.drop_drop, List.drop_left' three, ih inside,
        List.drop_succ_cons]

/-- Pieces with marks between them are placed where their lengths say. -/
theorem places_intercalate (three : mark.length = 3) (pieces : List (List Char)) :
    Places (pieces.map List.length) mark pieces (mark.intercalate pieces) where
  filled := rfl
  length := by rw [length_intercalate three, List.length_map]
  piece i width isWidth := by
    rw [List.getElem?_map, Option.map_eq_some_iff] at isWidth
    obtain ⟨piece, isPiece, rfl⟩ := isWidth
    obtain ⟨inside, rfl⟩ := List.getElem?_eq_some_iff.mp isPiece
    rw [drop_start three inside, List.drop_eq_getElem_cons inside]
    rcases pieces.drop (i + 1) with - | ⟨next, rest⟩
    · rw [List.intercalate_singleton, List.take_length, isPiece]
    · rw [List.intercalate_cons_cons, List.append_assoc, List.take_left, isPiece]
  mark i width isWidth more := by
    rw [List.getElem?_map, Option.map_eq_some_iff] at isWidth
    obtain ⟨piece, isPiece, rfl⟩ := isWidth
    obtain ⟨inside, rfl⟩ := List.getElem?_eq_some_iff.mp isPiece
    rw [List.length_map] at more
    rw [← List.drop_drop, drop_start three inside, List.drop_eq_getElem_cons inside,
      List.drop_eq_getElem_cons more, List.intercalate_cons_cons, List.append_assoc,
      List.drop_left, List.take_left' three]

end

/-! ## Widths -/

/-- The texts of a column: its name, and the values of the rows that have one there. -/
def column (result : QueryResult) (i : Nat) : List String :=
  match result.columns[i]? with
  | some name => name :: result.rows.filterMap (·.values[i]?)
  | none => []

theorem getElem?_widen (widths : List Nat) (cells : List String) (i : Nat) :
    (widen widths cells)[i]? =
      widths[i]?.map fun width => (cells[i]?.toList.map String.length).foldl max width := by
  induction widths, cells using widen.induct generalizing i with
  | case1 width widths cell cells ih =>
    rcases i with - | i
    · rfl
    · simpa [widen] using ih i
  | case2 widths cells short =>
    rw [widen.eq_2 widths cells short]
    rcases widths with - | ⟨width, widths⟩
    · rfl
    · rcases cells with - | ⟨cell, cells⟩
      · simp
      · exact (short _ _ _ _ rfl rfl).elim

/-- Rows make a column as wide as the longest of their values. -/
theorem getElem?_foldl_widen (rows : List Row) (widths : List Nat) (i : Nat) :
    (rows.foldl (fun widths row => widen widths row.values) widths)[i]? =
      widths[i]?.map fun width =>
        ((rows.filterMap (·.values[i]?)).map String.length).foldl max width := by
  induction rows generalizing widths with
  | nil => simp
  | cons row rows ih =>
    rw [List.foldl_cons, ih, getElem?_widen, Option.map_map]
    congr 1
    funext width
    rw [List.filterMap_cons]
    rcases row.values[i]? with - | cell <;> rfl

/-- A column is as wide as its longest text. -/
theorem getElem?_widths (result : QueryResult) (i : Nat) :
    (widths result)[i]? = ((column result i).map String.length).max? := by
  rw [widths, getElem?_foldl_widen, List.getElem?_map, Option.map_map, column]
  rcases result.columns[i]? with - | name <;> rfl

theorem length_widen (widths : List Nat) (cells : List String) :
    (widen widths cells).length = widths.length := by
  induction widths, cells using widen.induct with
  | case1 width widths cell cells ih => simpa [widen] using ih
  | case2 widths cells short => rw [widen.eq_2 widths cells short]

theorem length_foldl_widen (rows : List Row) (widths : List Nat) :
    (rows.foldl (fun widths row => widen widths row.values) widths).length = widths.length := by
  induction rows generalizing widths with
  | nil => rfl
  | cons row rows ih => rw [List.foldl_cons, ih, length_widen]

theorem length_widths (result : QueryResult) :
    (widths result).length = result.columns.length := by
  rw [widths, length_foldl_widen, List.length_map]

/-- Texts that leave no column empty and are not too long for any. -/
structure Fits (widths : List Nat) (texts : List String) : Prop where
  length : texts.length = widths.length
  le : ∀ (i width : Nat) (text : String), widths[i]? = some width → texts[i]? = some text →
    text.length ≤ width

theorem length_le_of_mem_column {result : QueryResult} {i width : Nat} {text : String}
    (isWidth : (widths result)[i]? = some width) (mem : text ∈ column result i) :
    text.length ≤ width := by
  rw [getElem?_widths, List.max?_eq_some_iff] at isWidth
  exact isWidth.2 _ (List.mem_map_of_mem mem)

theorem fits_columns (result : QueryResult) : Fits (widths result) result.columns where
  length := (length_widths result).symm
  le i width name isWidth isName := by
    refine length_le_of_mem_column isWidth ?_
    rw [column, isName]
    exact List.mem_cons_self

theorem fits_values {result : QueryResult} {row : Row} (mem : row ∈ result.rows)
    (complete : row.values.length = result.columns.length) :
    Fits (widths result) row.values where
  length := complete.trans (length_widths result).symm
  le i width value isWidth isValue := by
    have inside : i < result.columns.length := by
      rw [← length_widths]
      exact (List.getElem?_eq_some_iff.mp isWidth).1
    refine length_le_of_mem_column isWidth ?_
    rw [column, List.getElem?_eq_getElem inside]
    exact List.mem_cons_of_mem _ (List.mem_filterMap.mpr ⟨row, mem, isValue⟩)

/-! ## Lines -/

/-- A text followed by blanks, as wide as a column if it is not longer. -/
def cell (width : Nat) (text : String) : List Char :=
  text.toList ++ List.replicate (width - text.length) ' '

theorem toList_padded (width : Nat) (text : String) :
    (padded width text).toList = cell width text := by
  rw [padded, String.toList_append, String.toList_ofList, cell]

theorem length_cell {width : Nat} {text : String} (short : text.length ≤ width) :
    (cell width text).length = width := by
  rw [cell, List.length_append, List.length_replicate, String.length_toList]
  omega

/-- Texts that fit fill their columns. -/
theorem Fits.length_cells {widths : List Nat} {texts : List String} (fits : Fits widths texts) :
    (List.zipWith cell widths texts).map List.length = widths := by
  refine List.ext_getElem (by simp [fits.length]) fun i inside isWidth => ?_
  have isText : i < texts.length := fits.length ▸ isWidth
  rw [List.getElem_map, List.getElem_zipWith]
  exact length_cell (fits.le i _ _ (List.getElem?_eq_getElem isWidth)
    (List.getElem?_eq_getElem isText))

theorem toList_line (widths : List Nat) (texts : List String) :
    (line widths texts).toList =
      [' ', '│', ' '].intercalate (List.zipWith cell widths texts) := by
  rw [line, String.toList_intercalate, List.map_zipWith]
  simp only [toList_padded]
  rfl

theorem toList_rule (widths : List Nat) :
    (rule widths).toList = ['─', '┼', '─'].intercalate (widths.map (List.replicate · '─')) := by
  rw [rule, String.toList_intercalate, List.map_map]
  simp only [Function.comp_def, String.toList_ofList]
  rfl

theorem places_line {widths : List Nat} {texts : List String} (fits : Fits widths texts) :
    Places widths [' ', '│', ' '] (List.zipWith cell widths texts) (line widths texts).toList := by
  have three : [' ', '│', ' '].length = 3 := rfl
  have placed := places_intercalate three (List.zipWith cell widths texts)
  rwa [fits.length_cells, ← toList_line] at placed

theorem places_rule (widths : List Nat) :
    Places widths ['─', '┼', '─'] (widths.map (List.replicate · '─')) (rule widths).toList := by
  have filled : (widths.map (List.replicate · '─')).map List.length = widths := by
    simp [Function.comp_def]
  have three : ['─', '┼', '─'].length = 3 := rfl
  have placed := places_intercalate three (widths.map (List.replicate · '─'))
  rwa [filled, ← toList_rule] at placed

/-- Lines that show a result in columns of some widths: its names, a rule and its rows, and a last
line apart from these. -/
def Shows (result : QueryResult) (widths : List Nat) (lines : List String) : Prop :=
  ∃ names rule rows last, lines = names :: rule :: rows ++ ["", last] ∧
    Places widths [' ', '│', ' '] (List.zipWith cell widths result.columns) names.toList ∧
    Places widths ['─', '┼', '─'] (widths.map (List.replicate · '─')) rule.toList ∧
    List.Forall₂ (fun (row : Row) (line : String) =>
      Places widths [' ', '│', ' '] (List.zipWith cell widths row.values) line.toList)
      result.rows rows

/-- Where every row has a value in each column, a table shows the result. -/
theorem shows_lines {result : QueryResult}
    (complete : ∀ row ∈ result.rows, row.values.length = result.columns.length)
    (last : String) : Shows result (widths result) (lines result ++ ["", last]) := by
  refine ⟨_, _, _, last, rfl, places_line (fits_columns result), places_rule _, ?_⟩
  rw [List.forall₂_map_right_iff, List.forall₂_same]
  intro row mem
  exact places_line (fits_values mem (complete row mem))

/-- Rows are shown in a table, if no column is too wide. -/
theorem report?_eq {result : QueryResult} (nonempty : result.rows ≠ []) (paged : Bool) :
    report? result paged =
      if ∀ width ∈ widths result, width ≤ greatestWidth then
        some (lines result ++ ["", summary result paged])
      else none := by
  have shown : result.isEmpty = false := by
    rw [QueryResult.isEmpty, List.isEmpty_eq_false_iff]
    exact nonempty
  simp only [report?, shown, List.all_eq_true, decide_eq_true_eq, Bool.false_eq_true, if_false]

end Clausal.Report.Table

namespace Clausal.Cli.SelectOptions

open Report.Table

/-- A result with rows, each of which has a value in each column. A column is as wide as the longest
of its name and its values, and all lines place their cells and marks by these widths. But a width
that blanks cannot fill makes the program break down, and no line is shown. -/
theorem report_aligned (o : SelectOptions) (result : QueryResult) (asTable : o.format = .table)
    (nonempty : result.rows ≠ [])
    (complete : ∀ row ∈ result.rows, row.values.length = result.columns.length) :
    ∃ widths : List Nat, (∀ i, widths[i]? = ((column result i).map String.length).max?) ∧
      ((∀ width ∈ widths, width ≤ 65535) ∧
          (∃ lines, o.report result = .ok lines ∧ Shows result widths lines) ∨
        (∃ width ∈ widths, 65535 < width) ∧ o.report result = .error .tooWide) := by
  refine ⟨widths result, getElem?_widths result, ?_⟩
  rw [report, asTable]
  dsimp only
  rw [report?_eq nonempty, Report.greatestWidth]
  by_cases narrow : ∀ width ∈ widths result, width ≤ 65535
  · rw [if_pos narrow]
    exact .inl ⟨narrow, _, rfl, shows_lines complete _⟩
  · rw [if_neg narrow]
    simp only [not_forall, Nat.not_le, exists_prop] at narrow
    exact .inr ⟨narrow, rfl⟩

/-- Widths count characters. A column of 65536 of them is too wide. -/
theorem report_aligned_characters :
    let o : SelectOptions := { table := "users" }
    let named : QueryResult := .ofRows ["id", "имя"] [["1", "Zoë"], ["12", "Jürgen"]]
    (∃ lines, o.report named = .ok lines ∧ Shows named [2, 6] lines) ∧
      o.report (.ofRows ["имя"] [[String.ofList (List.replicate 65536 'ж')]]) =
        .error .tooWide := by
  intro o named
  have breaks (value : String) (long : 65535 < value.length) :
      o.report (.ofRows ["имя"] [[value]]) = .error .tooWide := by
    obtain ⟨widths, widest, ⟨narrow, -⟩ | ⟨-, broken⟩⟩ :=
      report_aligned o (.ofRows ["имя"] [[value]]) rfl nofun (by simp [QueryResult.ofRows])
    · have greatest : widths[0]? = some (max 3 value.length) := widest 0
      have short := narrow _ (List.mem_of_getElem? greatest)
      omega
    · exact broken
  constructor
  · obtain ⟨widths, widest, outcome⟩ := report_aligned o named rfl (by decide) (by decide)
    have same : widths = [2, 6] := by
      refine List.ext_getElem? fun i => (widest i).trans ?_
      rcases i with - | - | i <;> rfl
    rw [same] at outcome
    rcases outcome with ⟨-, shown⟩ | ⟨⟨width, mem, wide⟩, -⟩
    · exact shown
    · simp only [List.mem_cons, List.not_mem_nil, or_false] at mem
      omega
  · apply breaks
    rw [String.length_ofList, List.length_replicate]
    omega

end Clausal.Cli.SelectOptions
