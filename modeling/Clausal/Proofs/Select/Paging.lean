import Clausal.Proofs.Condition.Operand
import Clausal.Proofs.Execution.UserTable
import Clausal.Proofs.Select.Count
/-!
# Pages of a table

A page of a table holds the rows of its window and nothing else, in order, also where its offset
goes over the greatest number: then no table has a row there. Windows of one size lie end to end, so
the pages up to the last one give every row once, and the pages after it are empty.
-/

namespace Clausal

namespace UserTable

open Querier (pageOffset)

/-! ## Windows -/

/-- The positions on a page of so many rows, counted from zero. Pages count from one. -/
def positions (rows size number : Nat) : List Nat :=
  List.range' ((number - 1) * size) (min (number * size) rows - (number - 1) * size)

/-- The positions on a page are those in its window, in order. -/
theorem positions_eq_filter (rows size number : Nat) : positions rows size number =
    (List.range rows).filter fun i => (number - 1) * size ≤ i ∧ i < min (number * size) rows := by
  unfold positions
  generalize (number - 1) * size = low
  generalize number * size = high
  induction rows with
  | zero => simp
  | succ rows ih =>
    have window (i : Nat) (mem : i ∈ List.range rows) :
        decide (low ≤ i ∧ i < min high (rows + 1)) = decide (low ≤ i ∧ i < min high rows) := by
      rw [List.mem_range] at mem
      simp only [decide_eq_decide]
      omega
    rw [List.range_succ, List.filter_append, List.filter_congr window, ← ih]
    -- The new row is the last of the window, or it is not in it.
    by_cases inside : low ≤ rows ∧ rows < high
    · have last : min high (rows + 1) - low = min high rows - low + 1 := by omega
      have next : low + 1 * (min high rows - low) = rows := by omega
      have kept : low ≤ rows ∧ rows < min high (rows + 1) := by omega
      rw [last, List.range'_concat, next, List.filter_cons_of_pos (by simpa using kept)]
      rfl
    · have same : min high (rows + 1) - low = min high rows - low := by omega
      have dropped : ¬ (low ≤ rows ∧ rows < min high (rows + 1)) := by omega
      rw [same, List.filter_cons_of_neg (by simpa using dropped)]
      simp

/-- The first pages, one after another. -/
theorem flatMap_positions (rows size pages : Nat) :
    (List.range' 1 pages).flatMap (positions rows size) =
      List.range' 0 (min (pages * size) rows) := by
  induction pages with
  | zero => simp
  | succ pages ih =>
    have more : (pages + 1) * size = pages * size + size := Nat.succ_mul pages size
    have next : positions rows size (1 + 1 * pages) =
        List.range' (pages * size) (min ((pages + 1) * size) rows - pages * size) := by
      rw [positions, show 1 + 1 * pages = pages + 1 by omega, Nat.add_sub_cancel]
    rw [List.range'_concat, List.flatMap_append, ih, List.flatMap_singleton, next]
    rcases Nat.le_total (pages * size) rows with within | beyond
    · have whole : min (pages * size) rows = pages * size := Nat.min_eq_left within
      have joined := List.range'_append_1 (s := 0) (m := pages * size)
        (n := min ((pages + 1) * size) rows - pages * size)
      rw [Nat.zero_add] at joined
      rw [whole, joined]
      congr 1
      omega
    · have nothing : min ((pages + 1) * size) rows - pages * size = 0 := by omega
      rw [nothing, List.range'_zero, List.append_nil]
      congr 1
      omega

/-- How many pages of a size it takes to hold all rows. -/
def pageCount (rows size : Nat) : Nat :=
  (rows + size - 1) / size

theorem le_pageCount_mul (rows : Nat) {size : Nat} (pos : 1 ≤ size) :
    rows ≤ pageCount rows size * size := by
  have below : rows + size - 1 < (rows + size - 1) / size * size + size :=
    Nat.lt_div_mul_add (by omega)
  unfold pageCount
  omega

theorem pageCount_le (rows : Nat) {size : Nat} (pos : 1 ≤ size) : pageCount rows size ≤ rows := by
  have grows : rows ≤ size * rows := Nat.le_mul_of_pos_left rows pos
  rw [pageCount, Nat.div_le_iff_le_mul_add_pred pos]
  omega

/-- Every row is on one of these pages, once and in order. -/
theorem flatMap_positions_pageCount (rows : Nat) {size : Nat} (pos : 1 ≤ size) :
    (List.range' 1 (pageCount rows size)).flatMap (positions rows size) = List.range rows := by
  rw [flatMap_positions, Nat.min_eq_right (le_pageCount_mul rows pos), List.range_eq_range']

theorem positions_of_pageCount_lt {rows size number : Nat} (pos : 1 ≤ size)
    (later : pageCount rows size < number) : positions rows size number = [] := by
  have all := le_pageCount_mul rows pos
  have before : pageCount rows size * size ≤ (number - 1) * size :=
    Nat.mul_le_mul_right size (by omega)
  have nothing : min (number * size) rows - (number - 1) * size = 0 := by omega
  rw [positions, nothing, List.range'_zero]

/-! ## Pages -/

/-- A page of a table. -/
def page (rows size number : UInt64) : QueryResult where
  total := rows
  offset := pageOffset number size
  rowCount := (positions rows.toNat size.toNat (max number.toNat 1)).length
  columns := ["id", "name"]
  rows := (positions rows.toNat size.toNat (max number.toNat 1)).map record

theorem toNat_pageOffset (number size : UInt64) : (pageOffset number size).toNat =
    min ((max number.toNat 1 - 1) * size.toNat) Saturating.greatest := by
  have first : (1 : UInt64) ≤ max number 1 := by
    rw [UInt64.le_iff_toNat_le, Saturating.toNat_max]
    exact Nat.le_max_right _ _
  rw [pageOffset, Saturating.toNat_mul, UInt64.toNat_sub_of_le _ _ first, Saturating.toNat_max]
  rfl

/-- The window of a page holds its positions. -/
theorem window_pageOffset (rows size number : UInt64) :
    List.range' (pageOffset number size).toNat
        (min ((pageOffset number size).toNat + size.toNat) rows.toNat -
          (pageOffset number size).toNat) =
      positions rows.toNat size.toNat (max number.toNat 1) := by
  have bound := Saturating.toNat_le_greatest rows
  have high : max number.toNat 1 * size.toNat =
      (max number.toNat 1 - 1) * size.toNat + size.toNat := by
    rw [← Nat.succ_mul]
    congr 1
    omega
  rw [toNat_pageOffset, positions, high]
  rcases Nat.le_total ((max number.toNat 1 - 1) * size.toNat) Saturating.greatest with
    within | beyond
  · rw [Nat.min_eq_left within]
  -- The offset is cut to the greatest number, and no table has a row there.
  · rw [Nat.min_eq_right beyond]
    have here : min (Saturating.greatest + size.toNat) rows.toNat - Saturating.greatest = 0 := by
      omega
    have there : min ((max number.toNat 1 - 1) * size.toNat + size.toNat) rows.toNat -
        (max number.toNat 1 - 1) * size.toNat = 0 := by
      omega
    rw [here, there, List.range'_zero, List.range'_zero]

end UserTable

namespace Selection

/-- The text of a selection begins with its columns. -/
theorem sql_rows {s : Selection} {rows : Fragment} (made : s.rows = .ok rows) :
    ∃ rest, rows.sql = "SELECT " ++ s.columnList ++ " FROM " ++ rest := by
  unfold Selection.rows at made
  split at made
  · cases made
  · obtain ⟨joins, -, made⟩ := bind_eq_ok_iff.mp made
    obtain ⟨filter, -, made⟩ := bind_eq_ok_iff.mp made
    obtain ⟨groups, -, made⟩ := bind_eq_ok_iff.mp made
    cases made
    refine ⟨Identifier.quoteTable (Text.trimmed s.table) ++ joins.sql ++ filter.sql ++ groups.sql,
      ?_⟩
    simp only [Fragment.sql_append, Fragment.sql_ofText, String.append_assoc]

/-- A limit is told behind the order. -/
theorem tail_of_limit {s : Selection} (limited : s.limit ≠ 0) :
    s.tail = s.orderClause.sql ++ UserTable.limitText s.offset s.limit := by
  rw [← sql_tail, limitClause, if_neg limited]
  rfl

/-- It begins like a counting statement exactly when the columns do. -/
theorem countWord_prefix_iff {s : Selection} {rows : Fragment} (made : s.rows = .ok rows)
    (tail : String) : UserTable.countWord <+: (rows.sql ++ tail).toList ↔
      "COUNT(0)".toList <+: (Text.trimmed s.columns).toList := by
  obtain ⟨rest, text⟩ := sql_rows made
  have word : UserTable.countWord = "SELECT ".toList ++ "COUNT(0)".toList := by rfl
  have blank : " FROM ".toList = ' ' :: "FROM ".toList := by decide
  have split : (rows.sql ++ tail).toList = "SELECT ".toList ++
      (s.columnList.toList ++ ' ' :: ("FROM ".toList ++ (rest ++ tail).toList)) := by
    simp only [text, String.toList_append, blank, List.append_assoc, List.cons_append]
  rw [word, split, List.prefix_append_right_inj]
  constructor
  · -- Behind SELECT the columns run up to a blank, and no blank is in COUNT(0).
    intro counts
    have named := Text.prefix_of_prefix_append (by decide) counts
    unfold columnList at named
    split at named
    · exact absurd named (by decide)
    · exact named
  · intro named
    have some : Text.isBlankString s.columns = false := by
      rw [Bool.eq_false_iff]
      intro none
      rw [Text.trimmed_eq_empty_iff.mpr none] at named
      exact absurd named (by decide)
    rw [columnList, if_neg (by simp [some])]
    exact named.trans (List.prefix_append _ _)

end Selection

namespace Querier

/-- A querier that a table can serve page by page: it is made for a selection and it assembles, and
its columns do not begin like a count. -/
structure Pageable (q : Querier) : Prop where
  plain : q.isGiven = false
  assembles : ∃ s, q.query.statement = .ok s
  columns : ¬ "COUNT(0)".toList <+: (Text.trimmed q.query.selection.columns).toList

theorem Pageable.rows {q : Querier} (ready : q.Pageable) :
    ∃ rows, q.query.selection.rows = .ok rows := by
  obtain ⟨s, made⟩ := ready.assembles
  rw [statement_of_plain ready.plain] at made
  rcases q.query.selection.statements_eq with ⟨e, -, -, failed⟩ | ⟨rows, found, -, -⟩
  · rw [failed] at made
    cases made
  · exact ⟨rows, found⟩

/-- What is asked of a querier still holds when it has turned to a page. -/
theorem Pageable.turned {q q' : Querier} (ready : q.Pageable) (number size : UInt64)
    (turned : q'.query = (q.paginate number size).query) : q'.Pageable where
  plain := (congrArg (·.given.isSome) turned).trans ready.plain
  assembles := by
    obtain ⟨rows, made⟩ := ready.rows
    have plain : (q.paginate number size).isGiven = false := ready.plain
    have same : (q.paginate number size).query.selection.rows = q.query.selection.rows := rfl
    rw [turned, statement_of_plain plain, Selection.statement_eq, same, made]
    exact ⟨_, rfl⟩
  columns := by
    rw [turned]
    exact ready.columns

/-- The statements of a page: one counts, the other ends in the limit clause of the page. -/
theorem Pageable.statements {q : Querier} (ready : q.Pageable) {size : UInt64}
    (pos : 1 ≤ size.toNat) (number : UInt64) : ∃ (inner : Statement) (front : String),
      (q.paginate number size).countStatement = .ok inner.counting ∧
      (q.paginate number size).build.1 =
        .ok ⟨front ++ UserTable.limitText (pageOffset number size) size, inner.params⟩ ∧
      ¬ UserTable.countWord <+:
        (front ++ UserTable.limitText (pageOffset number size) size).toList := by
  obtain ⟨rows, made⟩ := ready.rows
  have plain : (q.paginate number size).isGiven = false := ready.plain
  have fresh : (q.paginate number size).Coherent := coherent_of_memo rfl
  have same : (q.paginate number size).query.selection.rows = .ok rows := made
  have limited : (q.paginate number size).query.selection.limit ≠ 0 := by
    intro none
    have zero : size = 0 := none
    rw [zero] at pos
    cases pos
  have tail := Selection.tail_of_limit limited
  refine ⟨rows.toStatement, rows.sql ++ (q.paginate number size).query.selection.orderClause.sql,
    ?_, ?_, ?_⟩
  · rw [countStatement_of_plain plain, Selection.countStatement_eq, same]
    rfl
  · rw [build_of_coherent fresh, statement_of_plain plain]
    rcases (q.paginate number size).query.selection.statements_eq with
      ⟨e, failed, -, -⟩ | ⟨rows', made', -, fetching⟩
    · rw [failed] at same
      cases same
    · obtain rfl : rows' = rows := Except.ok.inj (made'.symm.trans same)
      rw [fetching, tail, ← String.append_assoc]
      rfl
  · have fetches := mt (Selection.countWord_prefix_iff made
      (q.paginate number size).query.selection.tail).mp ready.columns
    rw [tail, ← String.append_assoc] at fetches
    exact fetches

/-- One page: the querier turns to it, and the table answers with it. -/
theorem run_page (rows : UInt64) {q : Querier} (ready : q.Pageable) {size : UInt64}
    (pos : 1 ≤ size.toNat) (number : UInt64) (log : List Statement) :
    ∃ q' log', run (runPage (UserTable.executor rows) number size) q log =
        ((.ok (UserTable.page rows size number), q'), log') ∧
      q'.query = (q.paginate number size).query := by
  obtain ⟨inner, front, counting, built, fetches⟩ := ready.statements pos number
  have answer := UserTable.reply_limit rows (pageOffset number size) size inner.params fetches
  rw [UserTable.window_pageOffset] at answer
  have answered := UserTable.page_executor (UserTable.count_reply rows inner)
    ⟨front ++ UserTable.limitText (pageOffset number size) size, inner.params⟩ log
  have turned : (q.paginate number size).build =
      (.ok ⟨_, inner.params⟩, (q.paginate number size).build.2) := Prod.ext built rfl
  have query := query_build (q.paginate number size)
  have plain : (q.paginate number size).build.2.isGiven = false :=
    (congrArg (·.given.isSome) query).trans ready.plain
  refine ⟨_, log ++ [inner.counting] ++
    [⟨front ++ UserTable.limitText (pageOffset number size) size, inner.params⟩], ?_, query⟩
  rw [run_runPage, counting, turned]
  dsimp only
  rw [answered, answer, Except.map, paged, if_neg (by simp [plain]), QueryResult.ofRows,
    UserTable.page, List.map_map]
  dsimp only
  rw [List.length_map]
  rfl

/-- Pages one after another, each on the querier that the one before has left. -/
theorem run_pages (rows : UInt64) {size : UInt64} (pos : 1 ≤ size.toNat) (numbers : List UInt64)
    {q : Querier} (ready : q.Pageable) (log : List Statement) :
    ∃ q' log',
      run (numbers.mapM fun number => runPage (UserTable.executor rows) number size) q log =
        ((.ok (numbers.map (UserTable.page rows size)), q'), log') := by
  induction numbers generalizing q log with
  | nil => exact ⟨q, log, rfl⟩
  | cons number rest ih =>
    obtain ⟨q', log', first, turned⟩ := run_page rows ready pos number log
    obtain ⟨q'', log'', later⟩ := ih (ready.turned number size turned) log'
    refine ⟨q'', log'', ?_⟩
    rw [List.mapM_cons, Terminal.run_bind, first]
    dsimp only
    rw [Terminal.run_bind, later]
    rfl

/-- Each page of a table is told the number of all rows and holds exactly the rows of its window, in
order; pages after the last one are empty. The pages up to the last one, fetched one after another,
give every row once and in order. -/
theorem pages_partition (rows : UInt64) {q : Querier} (ready : q.Pageable) {size : UInt64}
    (pos : 1 ≤ size.toNat) (log : List Statement) :
    (∀ number : UInt64, ∃ result q' log',
      run (runPage (UserTable.executor rows) number size) q log = ((.ok result, q'), log') ∧
      result.total = rows ∧
      result.rows = ((List.range rows.toNat).filter fun i =>
        (max number.toNat 1 - 1) * size.toNat ≤ i ∧
          i < min (max number.toNat 1 * size.toNat) rows.toNat).map UserTable.record ∧
      result.rowCount = result.rows.length ∧
      result.offset.toNat =
        min ((max number.toNat 1 - 1) * size.toNat) (UInt64.size - 1) ∧
      ((rows.toNat + size.toNat - 1) / size.toNat < max number.toNat 1 → result.rows = [])) ∧
    ∃ results q' log',
      run (((List.range' 1 ((rows.toNat + size.toNat - 1) / size.toNat)).map UInt64.ofNat).mapM
        fun number => runPage (UserTable.executor rows) number size) q log =
          ((.ok results, q'), log') ∧
      results.flatMap QueryResult.rows = (List.range rows.toNat).map UserTable.record := by
  constructor
  · intro number
    obtain ⟨q', log', ran, -⟩ := run_page rows ready pos number log
    refine ⟨_, q', log', ran, rfl, ?_, (List.length_map _).symm,
      UserTable.toNat_pageOffset number size, ?_⟩
    · rw [UserTable.page, UserTable.positions_eq_filter]
    · intro later
      rw [UserTable.page, UserTable.positions_of_pageCount_lt pos later]
      rfl
  · obtain ⟨q', log', ran⟩ := run_pages rows pos
      ((List.range' 1 (UserTable.pageCount rows.toNat size.toNat)).map UInt64.ofNat) ready log
    refine ⟨_, q', log', ran, ?_⟩
    have numbered : ∀ n ∈ List.range' 1 (UserTable.pageCount rows.toNat size.toNat),
        (UserTable.page rows size (UInt64.ofNat n)).rows =
          (UserTable.positions rows.toNat size.toNat n).map UserTable.record := by
      intro n mem
      have last := UserTable.pageCount_le rows.toNat pos
      have bound := rows.toNat_lt_size
      rw [List.mem_range'_1] at mem
      have same : (UInt64.ofNat n).toNat = n := UInt64.toNat_ofNat_of_lt (by omega)
      rw [UserTable.page, same, Nat.max_eq_left mem.1]
    rw [List.flatMap_map, List.flatMap_map, List.flatMap_congr numbered, ← List.map_flatMap,
      UserTable.flatMap_positions_pageCount rows.toNat pos]

/-- Three pages hold a table of twenty-five rows, and the fourth is empty. -/
theorem pages_partition_users :
    (∃ result q' log',
      run (runPage (UserTable.executor 25) 4 10) (({} : Querier).table "users") [] =
        ((.ok result, q'), log') ∧ result.total = 25 ∧ result.rows = [] ∧
        result.rowCount = 0) ∧
    ∃ results q' log',
      run ([1, 2, 3].mapM fun number => runPage (UserTable.executor 25) number 10)
        (({} : Querier).table "users") [] = ((.ok results, q'), log') ∧
      results.flatMap QueryResult.rows = (List.range 25).map UserTable.record := by
  have ready : (({} : Querier).table "users").Pageable := ⟨rfl, ⟨_, rfl⟩, by decide⟩
  have sized : 1 ≤ (10 : UInt64).toNat := by decide
  obtain ⟨each, all⟩ := pages_partition 25 ready sized []
  obtain ⟨result, q', log', ran, total, -, counted, -, beyond⟩ := each 4
  have none := beyond (by decide)
  exact ⟨⟨result, q', log', ran, total, none, counted.trans (congrArg List.length none)⟩, all⟩

end Querier

end Clausal
