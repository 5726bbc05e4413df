import Clausal.Proofs.FieldKey.Spelling
import Clausal.Proofs.Write.Rows
/-!
# Overrides of written values

A write and a condition look for the hook of a value under different names: a write under the
column as it is spelled, a condition under the field of its key. Where a column is spelled as its
field, the same value is written and compared. A column in backticks or with blanks around it stands
in the statement as the same identifier, and yet the hook of its field passes the write by.
-/

namespace Clausal

open Text (isBlank isBlankString trim)

/-! ## Around a value -/

/-- A place for a column in a record, with the columns that stand before and behind it. -/
structure Cell where
  before : List (String × SqlValue)
  after : List (String × SqlValue)

namespace Cell

variable (cell : Cell) (column : String) (v : SqlValue)

def columns : List String :=
  cell.before.map Prod.fst ++ column :: cell.after.map Prod.fst

/-- The record with the column and its value in the place. -/
def record : Record :=
  ⟨cell.before ++ (column, v) :: cell.after⟩

theorem columns_record : (cell.record column v).columns = cell.columns column := by
  simp [Record.columns, record, columns]

theorem columns_ne_nil : cell.columns column ≠ [] := by
  simp [columns]

end Cell

namespace Write

theorem rowsRefusal?_cons_eq_none_iff {first : Record} {rest : List Record} :
    rowsRefusal? (first :: rest) = none ↔
      first.columns ≠ [] ∧ ∀ r ∈ rest, r.columns = first.columns := by
  rw [rowsRefusal?, Ne, first.columns_eq_nil_iff]
  cases first.isEmpty with
  | true => simp
  | false => simp [Mutation.firstMismatch?_eq_none_iff]

/-- Any record with columns can stand for the first: all records have the columns of that one. -/
theorem rowsRefusal?_eq_none_iff {earlier later : List Record} {r : Record}
    (full : r.columns ≠ []) : rowsRefusal? (earlier ++ r :: later) = none ↔
      ∀ other ∈ earlier ++ later, other.columns = r.columns := by
  cases earlier with
  | nil =>
    rw [List.nil_append, List.nil_append, rowsRefusal?_cons_eq_none_iff]
    exact and_iff_right full
  | cons first rest =>
    rw [List.cons_append, List.cons_append, rowsRefusal?_cons_eq_none_iff, List.forall_mem_append,
      List.forall_mem_cons, List.forall_mem_cons, List.forall_mem_append]
    constructor
    · rintro ⟨-, before, here, after⟩
      rw [here]
      exact ⟨rfl, before, after⟩
    · rintro ⟨same, before, after⟩
      rw [same]
      exact ⟨full, before, rfl, after⟩

end Write

namespace Mutation

variable (m : Mutation)

/-- A row with a piece in the place of one value. -/
def rowAround (cell : Cell) (piece : Fragment) : Fragment :=
  .ofText "(" ++ Fragment.intercalate ", "
    (cell.before.map (fun (column, v) => m.value column v) ++
      piece :: cell.after.map fun (column, v) => m.value column v) ++ .ofText ")"

/-- Columns and rows under them. -/
def rowsOf (verb : String) (columns : List String) (rows : List Fragment) : Fragment :=
  .ofText (verb ++ " " ++ Identifier.quote (Text.trimmed m.table) ++ " (" ++
    String.intercalate ", " (columns.map Identifier.quote) ++ ") VALUES ") ++
    Fragment.intercalate ", " rows

/-- A change with a piece in the place of one value. -/
def changeAround (cell : Cell) (column : String) (piece : Fragment) : Fragment :=
  .ofText ("UPDATE " ++ Identifier.quote (Text.trimmed m.table) ++ " SET ") ++
    Fragment.intercalate ", " (cell.before.map (fun (column, v) => m.assignment column v) ++
      (.ofText (Identifier.quote column ++ " = ") ++ piece) ::
        cell.after.map fun (column, v) => m.assignment column v)

/-- Wherever the value is written to the column, the piece stands for it, and what the piece binds
is bound there. Whether there is a statement at all is for the table, the columns and the condition
to say. -/
structure WritesAs (column : String) (v : SqlValue) (piece : Fragment) : Prop where
  insert : ∀ (cell : Cell) s, m.insert (cell.record column v) = .ok s ↔
    isBlankString m.table = false ∧
      s = (m.rowsOf "INSERT INTO" (cell.columns column) [m.rowAround cell piece]).toStatement
  replaceInto : ∀ earlier (cell : Cell) later s,
    m.replaceInto (earlier ++ cell.record column v :: later) = .ok s ↔
      isBlankString m.table = false ∧
        (∀ r ∈ earlier ++ later, r.columns = cell.columns column) ∧
        s = (m.rowsOf "REPLACE INTO" (cell.columns column)
          (earlier.map m.row ++ m.rowAround cell piece :: later.map m.row)).toStatement
  update : ∀ (cell : Cell) condition s, m.update (cell.record column v) condition = .ok s ↔
    isBlankString m.table = false ∧ ∃ predicate, m.predicate condition = .ok predicate ∧
      s = (m.changeAround cell column piece ++ .ofText " WHERE " ++ predicate).toStatement

variable (cell : Cell) (column : String) (v : SqlValue)

theorem row_record : m.row (cell.record column v) = m.rowAround cell (m.value column v) := by
  rw [row, Cell.record, List.map_append, List.map_cons, rowAround]

theorem rows_record {earlier later : List Record}
    (same : ∀ r ∈ earlier ++ later, r.columns = cell.columns column) (verb : String) :
    m.rows verb (earlier ++ cell.record column v :: later) = m.rowsOf verb (cell.columns column)
      (earlier.map m.row ++ m.rowAround cell (m.value column v) :: later.map m.row) := by
  have first : (Write.insertBatch (earlier ++ cell.record column v :: later)).columns =
      cell.columns column := by
    cases earlier with
    | nil => exact cell.columns_record column v
    | cons r rest => exact same r (by simp)
  rw [rows, first, List.map_append, List.map_cons, row_record, rowsOf]

theorem writeRows_eq_ok_iff {verb : String} {records : List Record} {s : Statement} :
    m.writeRows verb records = .ok s ↔ isBlankString m.table = false ∧
      Write.rowsRefusal? records = none ∧ s = (m.rows verb records).toStatement := by
  rw [writeRows_eq, Write.refusal?_insertBatch]
  cases isBlankString m.table with
  | true => simp
  | false =>
    rw [if_neg Bool.false_ne_true]
    cases Write.rowsRefusal? records <;> simp [eq_comm]

theorem writeRows_record_eq_ok_iff (verb : String) (earlier later : List Record) {s : Statement} :
    m.writeRows verb (earlier ++ cell.record column v :: later) = .ok s ↔
      isBlankString m.table = false ∧
        (∀ r ∈ earlier ++ later, r.columns = cell.columns column) ∧
        s = (m.rowsOf verb (cell.columns column) (earlier.map m.row ++
          m.rowAround cell (m.value column v) :: later.map m.row)).toStatement := by
  have named := cell.columns_record column v
  have full : (cell.record column v).columns ≠ [] := named ▸ cell.columns_ne_nil column
  rw [writeRows_eq_ok_iff, Write.rowsRefusal?_eq_none_iff full, named]
  refine and_congr_right fun _ => and_congr_right fun same => ?_
  rw [m.rows_record cell column v same verb]

theorem update_record_eq_ok_iff {condition : Condition} {s : Statement} :
    m.update (cell.record column v) condition = .ok s ↔
      isBlankString m.table = false ∧ ∃ predicate, m.predicate condition = .ok predicate ∧
        s = (m.changeAround cell column (m.value column v) ++ .ofText " WHERE " ++
          predicate).toStatement := by
  have full : (cell.record column v).isEmpty = false := by
    simp [Cell.record, Record.isEmpty]
  have head : m.updateHead (cell.record column v) =
      m.changeAround cell column (m.value column v) := by
    rw [updateHead, Cell.record, List.map_append, List.map_cons, changeAround]
    rfl
  rw [update_eq, full, head, if_neg Bool.false_ne_true]
  cases isBlankString m.table with
  | true => simp
  | false =>
    rw [if_neg Bool.false_ne_true, under, map_eq_ok_iff]
    simp [eq_comm]

/-- A write takes the hook of the column as it is spelled. -/
theorem writesAs_value : m.WritesAs column v (m.value column v) where
  insert := fun cell s => by
    have made := m.writeRows_record_eq_ok_iff cell column v "INSERT INTO" [] [] (s := s)
    change m.writeRows "INSERT INTO" [cell.record column v] = .ok s ↔ _
    simpa using made
  replaceInto := fun earlier cell later _ =>
    m.writeRows_record_eq_ok_iff cell column v "REPLACE INTO" earlier later
  update := fun cell _ _ => m.update_record_eq_ok_iff cell column v

end Mutation

/-! ## What is compared -/

/-- A condition on one field is the clause of its key, with what the hook of the field makes of the
value. -/
theorem Condition.compile_field {key : String} {parsed : FieldKey} (plain : Logic.ofKey? key = none)
    (read : FieldKey.read key = .ok parsed) (r : Rendering) (logic : Logic) (v : SqlValue) :
    (field key v).compile r logic = parsed.clause r.mode (r.hooks.apply parsed.field v) := by
  have entry : compileEntry r (.value key v) =
      parsed.clause r.mode (r.hooks.apply parsed.field v) := by
    simp only [compileEntry, plain, read]
    rfl
  rw [field, compile, compileEntries, entry]
  cases made : parsed.clause r.mode (r.hooks.apply parsed.field v) with
  | error e => rfl
  | ok f =>
    refine congrArg Except.ok ?_
    simp [Fragment.join, FieldKey.isEmpty_clause made, Fragment.intercalate]

theorem FieldKey.clause_of_equal {key : FieldKey} (equals : key.op = .equal) (mode : Mode)
    (v : SqlValue) : key.clause mode v =
      .ok (.ofText (Identifier.quote key.field ++ " = ") ++ .ofValue mode v) := by
  obtain ⟨field, op⟩ := key
  obtain rfl : op = .equal := equals
  have opening : FieldKey.opening ⟨field, .equal⟩ = Identifier.quote field ++ " = " := by
    rw [FieldKey.opening, String.append_assoc, String.append_assoc]
    rfl
  rw [clause_eq, opening]
  rfl

/-! ## Both -/

namespace Mutation

/-- Under two names that are not the same, one value can be written in two ways. -/
theorem exists_value_ne {column other : String} (apart : column ≠ other) (table : String)
    (mode : Mode) : ∃ hooks v,
      value ⟨table, ⟨hooks, mode⟩⟩ column v ≠ value ⟨table, ⟨hooks, mode⟩⟩ other v := by
  refine ⟨Hooks.empty.register column fun _ => .text "", .null, ?_⟩
  have hooked : value ⟨table, ⟨Hooks.empty.register column fun _ => .text "", mode⟩⟩ column .null =
      .ofValue mode (.text "") := by
    rw [value, Hooks.apply, Hooks.find?_register, if_pos rfl]
  have plain : value ⟨table, ⟨Hooks.empty.register column fun _ => .text "", mode⟩⟩ other .null =
      .ofValue mode .null := by
    rw [value, Hooks.apply, Hooks.find?_register, if_neg apart, Hooks.find?_empty]
  rw [hooked, plain]
  intro same
  cases mode with
  | inline => exact absurd (congrArg Fragment.sql same) (by decide)
  | parameterized => cases congrArg Fragment.params same

/-- A column is written with the hook of its spelling and compared with the hook of its field. Both
agree under hooks that are the same for the two names, and they agree under all hooks exactly when
the column is spelled as its field. To the identifier in the statement the spelling makes no
difference, as long as there are no blanks inside. -/
theorem overrides_by_spelling {column : String} {parsed : FieldKey}
    (plain : Logic.ofKey? column = none) (read : FieldKey.read column = .ok parsed)
    (equals : parsed.op = .equal) :
    (∀ (m : Mutation) v, m.WritesAs column v (m.value column v)) ∧
      (∀ (m : Mutation) v, (Condition.field column v).compile m.rendering .and =
        .ok (.ofText (Identifier.quote parsed.field ++ " = ") ++ m.value parsed.field v)) ∧
      (∀ m : Mutation, m.rendering.hooks.find? column = m.rendering.hooks.find? parsed.field →
        ∀ v, m.value column v = m.value parsed.field v) ∧
      (∀ table mode, (∀ hooks v, value ⟨table, ⟨hooks, mode⟩⟩ column v =
        value ⟨table, ⟨hooks, mode⟩⟩ parsed.field v) ↔ FieldKey.IsBare column) ∧
      ((∀ c ∈ trim column.toList, isBlank c = false) →
        Identifier.quote parsed.field = Identifier.quote column) := by
  refine ⟨fun m v => m.writesAs_value column v, fun m v => ?_, fun m same v => ?_,
    fun table mode => ?_, FieldKey.quote_field read⟩
  · rw [Condition.compile_field plain read, FieldKey.clause_of_equal equals]
    rfl
  · rw [value, value, Hooks.apply, Hooks.apply, same]
  · rw [← FieldKey.field_eq_self_iff read]
    constructor
    · intro alike
      by_contra apart
      obtain ⟨hooks, v, differ⟩ := exists_value_ne (Ne.symm apart) table mode
      exact differ (alike hooks v)
    · intro same hooks v
      rw [same]

/-- A hook for a name misses what is written to that name in backticks: the row that is changed is
not found again under its new value. -/
theorem overrides_by_spelling_backticks :
    update ⟨"t", ⟨Hooks.empty.register "name" fun _ => .text "H", .inline⟩⟩
        ⟨[("`name`", .text "v")]⟩ (.field "`name`" (.text "v")) =
        .ok ⟨"UPDATE `t` SET `name` = 'v' WHERE `name` = 'H'", []⟩ ∧
      Identifier.quote "name" = Identifier.quote "`name`" ∧
      ¬ FieldKey.IsBare "`name`" := by
  have read : FieldKey.read "`name`" = .ok ⟨"name", .equal⟩ := by rfl
  obtain ⟨written, compared, -, -, quoted⟩ := overrides_by_spelling (by rfl) read rfl
  have condition := compared ⟨"t", ⟨Hooks.empty.register "name" fun _ => .text "H", .inline⟩⟩
    (.text "v")
  have predicate := predicate_eq_ok_iff.mpr ⟨condition, by rfl⟩
  refine ⟨((written _ _).update ⟨[], []⟩ _ _).mpr ⟨by rfl, _, predicate, by rfl⟩, ?_, ?_⟩
  · have solid : (trim "`name`".toList).all (!isBlank ·) = true := by decide
    exact quoted fun c mem => by simpa using List.all_eq_true.mp solid c mem
  · exact fun bare => absurd bare.2.2 (by decide)

end Mutation

end Clausal
