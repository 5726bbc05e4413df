import Clausal.Proofs.Condition.Overrides
import Clausal.Proofs.Write.Modes
import Mathlib.Order.Bounds.Basic
/-!
# Rows of a batch

A batch is written whole or not at all. It is refused when there is no table, no record, no column,
or a record with other columns than the first; of several such records the first one is named.
Otherwise the statement names the columns once, and then comes a group of values for each record: in
the place of a record and a column stands what the hook that was registered last for the column
makes of the value that the record has for it, as a literal or as a placeholder. What is bound lies
row after row, so the value of a place is found by counting whole rows and then columns.
-/

namespace Clausal

open Text (isBlankString)

/-! ## Rows laid end to end -/

section

variable {α β : Type} {f : α → List β} {xs : List α} {width : Nat}

theorem length_flatMap_of_length (same : ∀ x ∈ xs, (f x).length = width) :
    (xs.flatMap f).length = xs.length * width := by
  induction xs with
  | nil => simp
  | cons x rest ih =>
    obtain ⟨here, later⟩ := List.forall_mem_cons.mp same
    rw [List.flatMap_cons, List.length_append, here, ih later, List.length_cons, Nat.succ_mul,
      Nat.add_comm]

/-- Behind as many whole rows as there are before it, a row stands as it is. -/
theorem getElem?_flatMap_of_length (same : ∀ x ∈ xs, (f x).length = width) {i j : Nat} {x : α}
    (row : xs[i]? = some x) (inside : j < width) :
    (xs.flatMap f)[i * width + j]? = (f x)[j]? := by
  induction xs generalizing i with
  | nil => simp at row
  | cons first rest ih =>
    obtain ⟨here, later⟩ := List.forall_mem_cons.mp same
    rw [List.flatMap_cons]
    cases i with
    | zero =>
      obtain rfl : first = x := by simpa using row
      rw [Nat.zero_mul, Nat.zero_add, List.getElem?_append_left (by omega)]
    | succ i =>
      have behind : (i + 1) * width + j - (f first).length = i * width + j := by
        rw [here, Nat.succ_mul]
        omega
      have past : (f first).length ≤ (i + 1) * width + j := by
        rw [here, Nat.succ_mul]
        omega
      rw [List.getElem?_append_right past, behind]
      exact ih later (by simpa using row)

end

/-! ## Checks of records -/

theorem Write.refusal?_insertBatch (table : String) (records : List Record) :
    (insertBatch records).refusal? table =
      if isBlankString table then some .noTable else rowsRefusal? records :=
  rfl

theorem Record.columns_eq_nil_iff (r : Record) : r.columns = [] ↔ r.isEmpty = true := by
  rw [columns, List.map_eq_nil_iff, isEmpty, List.isEmpty_iff]

namespace Mutation

/-- The indices of the records that have other columns than the given ones. -/
def mismatches (columns : List String) (records : List Record) : Set Nat :=
  {i | ∃ r, records[i]? = some r ∧ r.columns ≠ columns}

theorem firstMismatch?_eq_findIdx? (columns : List String) (index : Nat) (records : List Record) :
    firstMismatch? columns index records =
      (records.findIdx? fun r => r.columns != columns).map (index + ·) := by
  induction records generalizing index with
  | nil => rfl
  | cons r rest ih =>
    rw [firstMismatch?, List.findIdx?_cons]
    by_cases same : r.columns = columns
    · rw [if_pos same, if_neg (by simp [same]), ih, Option.map_map]
      congr 1
      funext i
      simp only [Function.comp_apply]
      omega
    · rw [if_neg same, if_pos (by simpa using same)]
      rfl

theorem firstMismatch?_eq_none_iff {columns : List String} {records : List Record} :
    firstMismatch? columns 0 records = none ↔ ∀ r ∈ records, r.columns = columns := by
  rw [firstMismatch?_eq_findIdx?, Option.map_eq_none_iff, List.findIdx?_eq_none_iff]
  simp

theorem firstMismatch?_eq_some_iff {columns : List String} {records : List Record} {i : Nat} :
    firstMismatch? columns 0 records = some i ↔ IsLeast (mismatches columns records) i := by
  have counted : (fun i => 0 + i) = (id : Nat → Nat) := funext Nat.zero_add
  rw [firstMismatch?_eq_findIdx?, counted, Option.map_id_apply, List.findIdx?_eq_some_iff_getElem]
  constructor
  · intro ⟨inside, differs, before⟩
    refine ⟨⟨records[i], List.getElem?_eq_getElem inside, by simpa using differs⟩, ?_⟩
    intro j ⟨r, found, other⟩
    by_contra less
    obtain ⟨bound, rfl⟩ := List.getElem?_eq_some_iff.mp found
    exact before j (by omega) (by simpa using other)
  · intro ⟨⟨r, found, differs⟩, least⟩
    obtain ⟨inside, rfl⟩ := List.getElem?_eq_some_iff.mp found
    refine ⟨inside, by simpa using differs, fun j less other => ?_⟩
    have bound : j < records.length := by omega
    have first : i ≤ j := least ⟨records[j], List.getElem?_eq_getElem bound, by simpa using other⟩
    omega

/-! ## The text of rows -/

/-- Columns once, and then a group of values for each row. -/
def rowsText (m : Mutation) (verb : String) (columns : List String)
    (groups : List (List String)) : String :=
  verb ++ " " ++ Identifier.quote (Text.trimmed m.table) ++ " (" ++
    String.intercalate ", " (columns.map Identifier.quote) ++ ") VALUES " ++
    String.intercalate ", " (groups.map fun group => "(" ++ String.intercalate ", " group ++ ")")

/-- The values of a record as they are written. -/
def group (m : Mutation) (r : Record) : List String :=
  r.entries.map fun (column, v) => (m.value column v).sql

theorem sql_row (m : Mutation) (r : Record) :
    (m.row r).sql = "(" ++ String.intercalate ", " (m.group r) ++ ")" := by
  rw [row, Fragment.sql_append, Fragment.sql_append, Fragment.sql_intercalate, List.map_map]
  rfl

theorem sql_rows (m : Mutation) (verb : String) (records : List Record) :
    (m.rows verb records).sql =
      m.rowsText verb (Write.insertBatch records).columns (records.map m.group) := by
  rw [rows, Fragment.sql_append, Fragment.sql_intercalate, Fragment.sql_ofText, rowsText,
    List.map_map, List.map_map]
  congr 3
  funext r
  exact m.sql_row r

theorem params_rows (m : Mutation) (verb : String) (records : List Record) :
    (m.rows verb records).params =
      match m.rendering.mode with
      | .inline => []
      | .parameterized =>
        ((Write.insertBatch records).values m.rendering.hooks).map SqlValue.param := by
  obtain ⟨table, hooks, mode⟩ := m
  rw [rows_eq_render]
  cases mode with
  | inline => exact Template.params_render_inline _
  | parameterized =>
    rw [Template.params_render_parameterized, Write.values_rowsTemplate]

/-! ## Whole batches -/

/-- The statement of rows. For each record there is a group and for each column a value in it, and
nothing besides. What takes the place of the value of a record for a column is the literal in its
place, or else it is bound in the place of its row and column. -/
structure HoldsRows (override : String → SqlValue → SqlValue) (m : Mutation) (verb : String)
    (columns : List String) (records : List Record) (groups : List (List String)) (s : Statement) :
    Prop where
  text : s.sql = m.rowsText verb columns groups
  rows : groups.length = records.length
  width : ∀ group ∈ groups, group.length = columns.length
  count : s.params.length =
    match m.rendering.mode with
    | .inline => 0
    | .parameterized => records.length * columns.length
  cell : ∀ {i j r column v}, records[i]? = some r → r.entries[j]? = some (column, v) →
    columns[j]? = some column ∧
      match m.rendering.mode with
      | .inline =>
        groups[i]?.bind (·[j]?) = some (override column v).literal
      | .parameterized =>
        groups[i]?.bind (·[j]?) = some placeholder ∧
          s.params[i * columns.length + j]? = some (override column v).param

/-- What becomes of records that are to be written as rows. -/
inductive WritesRows (override : String → SqlValue → SqlValue) (m : Mutation) (verb : String) :
    List Record → Except Error Statement → Prop
  | noTable {records : List Record} : isBlankString m.table = true →
    WritesRows override m verb records (.error .noTable)
  | noRecords : isBlankString m.table = false →
    WritesRows override m verb [] (.error (.nothingToWrite "no records to write"))
  | noColumns {first : Record} {rest : List Record} : isBlankString m.table = false →
    first.columns = [] →
    WritesRows override m verb (first :: rest) (.error (.nothingToWrite "no columns to write"))
  | mismatch {first : Record} {rest : List Record} {i : Nat} : isBlankString m.table = false →
    first.columns ≠ [] → IsLeast (mismatches first.columns (first :: rest)) i →
    WritesRows override m verb (first :: rest) (.error (.invalidValue
      ("record " ++ toString i ++ " does not match the columns of the first record")))
  | written {first : Record} {rest : List Record} {groups : List (List String)} {s : Statement} :
    isBlankString m.table = false → first.columns ≠ [] →
    (∀ r ∈ first :: rest, r.columns = first.columns) →
    HoldsRows override m verb first.columns (first :: rest) groups s →
    WritesRows override m verb (first :: rest) (.ok s)

section

variable {records : List Record} {columns : List String} {i j : Nat} {r : Record} {column : String}
  {v : SqlValue}

theorem length_entries (same : ∀ r ∈ records, r.columns = columns) :
    ∀ r ∈ records, r.entries.length = columns.length := by
  intro r mem
  rw [← same r mem, Record.columns, List.length_map]

/-- In the place of a record and a column stands the value that the record has for the column. -/
theorem getElem?_groups (m : Mutation) (row : records[i]? = some r)
    (entry : r.entries[j]? = some (column, v)) :
    (records.map m.group)[i]?.bind (·[j]?) = some (m.value column v).sql := by
  rw [List.getElem?_map, row, Option.map_some, Option.bind_some, group, List.getElem?_map, entry]
  rfl

theorem length_values (hooks : Hooks) (same : ∀ r ∈ records, r.columns = columns) :
    ((Write.insertBatch records).values hooks).length = records.length * columns.length := by
  refine length_flatMap_of_length fun r mem => ?_
  rw [List.length_map, length_entries same r mem]

/-- The value of a place lies behind the whole rows before it and the columns before it. -/
theorem getElem?_values (hooks : Hooks) (same : ∀ r ∈ records, r.columns = columns)
    (row : records[i]? = some r) (entry : r.entries[j]? = some (column, v)) :
    ((Write.insertBatch records).values hooks)[i * columns.length + j]? =
      some (hooks.apply column v) := by
  have wide := length_entries same
  have inside : j < columns.length := by
    rw [← wide r (List.mem_of_getElem? row)]
    exact (List.getElem?_eq_some_iff.mp entry).1
  have valued : ∀ r ∈ records, (r.entries.map fun (column, v) =>
      hooks.apply column v).length = columns.length := by
    intro r mem
    rw [List.length_map, wide r mem]
  have found := getElem?_flatMap_of_length valued row inside
  rw [List.getElem?_map, entry] at found
  exact found

end

/-- Records with the same columns are written row by row. -/
theorem holdsRows (m : Mutation) (verb : String) {first : Record} {rest : List Record}
    (same : ∀ r ∈ first :: rest, r.columns = first.columns) :
    HoldsRows m.rendering.hooks.apply m verb first.columns (first :: rest)
      ((first :: rest).map m.group) (m.rows verb (first :: rest)).toStatement := by
  have bound : (m.rows verb (first :: rest)).toStatement.params = _ :=
    m.params_rows verb (first :: rest)
  constructor
  case text => exact m.sql_rows verb (first :: rest)
  case rows => exact List.length_map _
  case width =>
    intro group mem
    obtain ⟨r, memRecord, rfl⟩ := List.mem_map.mp mem
    rw [Mutation.group, List.length_map, length_entries same r memRecord]
  case count =>
    rw [bound]
    cases m.rendering.mode with
    | inline => rfl
    | parameterized =>
      rw [List.length_map]
      exact length_values m.rendering.hooks same
  case cell =>
    intro i j r column v row entry
    have named : r.columns[j]? = some column := by
      rw [Record.columns, List.getElem?_map, entry]
      rfl
    refine ⟨same r (List.mem_of_getElem? row) ▸ named, ?_⟩
    rw [getElem?_groups m row entry, bound, value]
    cases m.rendering.mode with
    | inline => rfl
    | parameterized =>
      refine ⟨rfl, ?_⟩
      rw [List.getElem?_map, getElem?_values m.rendering.hooks same row entry]
      rfl

/-- Records are checked in the order of the cases, and written when no case refuses them. -/
theorem writesRows (m : Mutation) (verb : String) (records : List Record) :
    WritesRows m.rendering.hooks.apply m verb records (m.writeRows verb records) := by
  rw [writeRows_eq, Write.refusal?_insertBatch]
  cases blank : isBlankString m.table with
  | true => exact .noTable blank
  | false =>
    cases records with
    | nil => exact .noRecords blank
    | cons first rest =>
      rw [Write.rowsRefusal?]
      cases empty : first.isEmpty with
      | true => exact .noColumns blank (first.columns_eq_nil_iff.mpr empty)
      | false =>
        have full : first.columns ≠ [] := by
          rw [Ne, first.columns_eq_nil_iff, empty]
          decide
        cases found : firstMismatch? first.columns 0 (first :: rest) with
        | some i => exact .mismatch blank full (firstMismatch?_eq_some_iff.mp found)
        | none =>
          have same := firstMismatch?_eq_none_iff.mp found
          exact .written blank full same (m.holdsRows verb same)

/-- Batches are complete and in order. Whatever hooks were registered and whatever records are
inserted or put over others, they are refused for the first thing that is wrong with them, or the
statement holds each value of each record in its place, after the last hook of its column, and
nothing else. Inserting one record is inserting the batch of that record. -/
theorem batch_complete (table : String) (registrations : List (String × (SqlValue → SqlValue)))
    (mode : Mode) :
    let m : Mutation := ⟨table, ⟨.ofList registrations, mode⟩⟩
    (∀ records, WritesRows (Hooks.last registrations) m "INSERT INTO" records
        (m.insertBatch records)) ∧
      (∀ records, WritesRows (Hooks.last registrations) m "REPLACE INTO" records
        (m.replaceInto records)) ∧
      ∀ r, m.insert r = m.insertBatch [r] ∧
        WritesRows (Hooks.last registrations) m "INSERT INTO" [r] (m.insert r) := by
  intro m
  have hooked : m.rendering.hooks.apply = Hooks.last registrations :=
    Hooks.apply_ofList registrations
  rw [← hooked]
  refine ⟨fun records => ?_, fun records => ?_, fun r => ⟨rfl, ?_⟩⟩
  · exact m.writesRows "INSERT INTO" records
  · exact m.writesRows "REPLACE INTO" records
  · exact m.writesRows "INSERT INTO" [r]

/-- The later of two hooks replaces the values of its column in both rows. -/
theorem batch_complete_hook :
    ∃ s, replaceInto ⟨"t", ⟨.ofList [("b", fun _ => .null), ("b", fun v => .list [v, v])],
        .parameterized⟩⟩ [⟨[("a", .bool true), ("b", .int 2)]⟩, ⟨[("a", .null), ("b", .int 3)]⟩] =
          .ok s ∧
      s.sql = "REPLACE INTO `t` (`a`, `b`) VALUES (?, ?), (?, ?)" ∧ s.params.length = 4 ∧
      s.params[0]? = some (.int 1) ∧ s.params[1]? = some (.text "2,2") ∧
      s.params[2]? = some .null ∧ s.params[3]? = some (.text "3,3") := by
  obtain ⟨-, replaces, -⟩ := batch_complete "t"
    [("b", fun _ => .null), ("b", fun v => .list [v, v])] .parameterized
  refine ⟨_, rfl, rfl, ?_⟩
  cases replaces [⟨[("a", .bool true), ("b", .int 2)]⟩, ⟨[("a", .null), ("b", .int 3)]⟩] with
  | written named full same holds =>
    exact ⟨holds.count, (holds.cell (i := 0) (j := 0) rfl rfl).2.2,
      (holds.cell (i := 0) (j := 1) rfl rfl).2.2, (holds.cell (i := 1) (j := 0) rfl rfl).2.2,
      (holds.cell (i := 1) (j := 1) rfl rfl).2.2⟩

/-- The second record has the columns of the first in another order, and the third has fewer. -/
example : insertBatch ⟨"t", {}⟩ [⟨[("a", .int 1), ("b", .null)]⟩, ⟨[("b", .null), ("a", .int 1)]⟩,
    ⟨[("a", .int 1)]⟩] =
      .error (.invalidValue "record 1 does not match the columns of the first record") :=
  rfl

end Mutation

end Clausal
