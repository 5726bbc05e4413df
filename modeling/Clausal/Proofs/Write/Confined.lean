import Clausal.Proofs.Condition.Confined
import Clausal.Proofs.Write.Call
/-!
# No write leaves its quotes

The table, the columns and the values of a write reach its text in three ways, beside the predicate
of its condition. Each of them stays in its quotes, so a statement that writes can be scanned piece
by piece, row after row: the scanner ends outside of quotes and has read back exactly the names and
the texts that were written.
-/

namespace Clausal

/-! ## Fragments -/

namespace Sql

theorem isUnquoted_of_isSeparator {c : Char} (separates : isSeparator c = true) :
    isUnquoted c = true := by
  have noQuote : c ≠ '\'' := by
    rintro rfl
    cases separates
  have noTick : c ≠ Identifier.backtick := by
    rintro rfl
    cases separates
  simp [isUnquoted, noQuote, noTick]

end Sql

namespace Fragment

/-- `f.Holds ts ns`: the fragment leaves no quote open, holds the texts `ts` in quotes and the names
`ns` in backticks, and is harmless outside of them, where a question mark stands for each value. -/
def Holds (f : Fragment) (ts ns : List (List Char)) : Prop :=
  ∃ ls, Sql.Scans f.sql.toList ls ∧ Sql.Harmless ts ns f.params.length ls

theorem holds_separator {s : String} (plain : s.toList.all Sql.isSeparator = true) :
    (ofText s).Holds [] [] := by
  have unquoted : s.toList.all Sql.isUnquoted = true := by
    rw [List.all_eq_true] at plain ⊢
    exact fun c mem => Sql.isUnquoted_of_isSeparator (plain c mem)
  exact ⟨Sql.bares s.toList, .bare unquoted, .separator plain⟩

theorem holds_quote (name : String) :
    (ofText (Identifier.quote name)).Holds [] (Identifier.properParts name.toList) := by
  refine ⟨Sql.nameLexemes name.toList, ?_, Sql.harmless_nameLexemes name.toList⟩
  rw [sql_ofText, Identifier.quote, String.toList_ofList]
  exact Sql.scans_quoteChars name.toList

theorem holds_ofValue (mode : Mode) (v : SqlValue) :
    (ofValue mode v).Holds (v.quotedTexts mode) [] :=
  ⟨v.lexemes mode, v.scans_ofValue mode, v.harmless_ofValue mode⟩

namespace Holds

theorem append {f g : Fragment} {ts us ns os : List (List Char)} (first : f.Holds ts ns)
    (second : g.Holds us os) : (f ++ g).Holds (ts ++ us) (ns ++ os) := by
  obtain ⟨ls, scans, harmless⟩ := first
  obtain ⟨ms, scans', harmless'⟩ := second
  refine ⟨ls ++ ms, ?_, ?_⟩
  · rw [sql_append, String.toList_append]
    exact scans.append scans'
  · rw [params_append, List.length_append]
    exact harmless.append harmless'

theorem before {f : Fragment} {ts ns : List (List Char)} (s : String)
    (plain : s.toList.all Sql.isSeparator = true) (holds : f.Holds ts ns) :
    (ofText s ++ f).Holds ts ns :=
  (holds_separator plain).append holds

theorem behind {f : Fragment} {ts ns : List (List Char)} (s : String)
    (plain : s.toList.all Sql.isSeparator = true) (holds : f.Holds ts ns) :
    (f ++ ofText s).Holds ts ns := by
  have whole := holds.append (holds_separator plain)
  rwa [List.append_nil, List.append_nil] at whole

theorem intercalate {α : Type} (separator : String)
    (plain : separator.toList.all Sql.isSeparator = true) {ts ns : α → List (List Char)}
    {written : α → Fragment} (each : ∀ item, (written item).Holds (ts item) (ns item))
    (items : List α) : (Fragment.intercalate separator (items.map written)).Holds
      (items.flatMap ts) (items.flatMap ns) := by
  induction items with
  | nil => exact ⟨[], .nil, .nil⟩
  | cons item rest ih =>
    cases rest with
    | nil =>
      rw [List.flatMap_singleton, List.flatMap_singleton]
      exact each item
    | cons next others => exact ((each item).behind separator plain).append ih

end Holds

theorem ofText_append (s t : String) : ofText (s ++ t) = ofText s ++ ofText t := rfl

theorem ofText_intercalate (separator : String) (parts : List String) :
    ofText (String.intercalate separator parts) = intercalate separator (parts.map ofText) := by
  induction parts with
  | nil => exact congrArg ofText String.intercalate_nil
  | cons part rest ih =>
    cases rest with
    | nil => exact congrArg ofText String.intercalate_singleton
    | cons next others =>
      rw [String.intercalate_cons_cons, ofText_append, ofText_append, ih]
      rfl

end Fragment

/-! ## Names and values of a call -/

theorem Identifier.backtick_not_mem_of_mem_properParts {name part : List Char}
    (mem : part ∈ properParts name) : backtick ∉ part := by
  obtain ⟨piece, -, rfl⟩ := List.mem_map.mp (List.mem_of_mem_filter mem)
  exact backtick_not_mem_dropBackticks _

namespace Write

/-- The comparisons of the condition. -/
def comparisons (hooks : Hooks) (w : Write) : List Comparison :=
  w.condition?.toList.flatMap (Condition.comparisons hooks)

/-- The names before the condition: the parts of the table, then those of each column. -/
def headNames (table : String) (w : Write) : List (List Char) :=
  Identifier.properParts (Text.trimmed table).toList ++
    w.columns.flatMap fun column => Identifier.properParts column.toList

/-- The texts that the written values put between quotes. -/
def headTexts (r : Rendering) (w : Write) : List (List Char) :=
  (w.values r.hooks).flatMap (SqlValue.quotedTexts r.mode)

/-- All names, those of the condition behind the others. -/
def names (table : String) (hooks : Hooks) (w : Write) : List (List Char) :=
  w.headNames table ++ (w.comparisons hooks).flatMap Comparison.names

/-- All texts, those of the condition behind the others. -/
def texts (r : Rendering) (w : Write) : List (List Char) :=
  w.headTexts r ++ (w.comparisons r.hooks).flatMap (Comparison.quotedTexts r.mode)

/-- No name holds a backtick. -/
theorem backtick_not_mem_of_mem_names {table : String} {hooks : Hooks} {w : Write}
    {name : List Char} (mem : name ∈ w.names table hooks) : Identifier.backtick ∉ name := by
  rw [names, headNames, List.mem_append, List.mem_append] at mem
  rcases mem with (ofTable | ofColumn) | ofField
  · exact Identifier.backtick_not_mem_of_mem_properParts ofTable
  · obtain ⟨column, -, inside⟩ := List.mem_flatMap.mp ofColumn
    exact Identifier.backtick_not_mem_of_mem_properParts inside
  · obtain ⟨comparison, -, inside⟩ := List.mem_flatMap.mp ofField
    exact Identifier.backtick_not_mem_of_mem_properParts inside

/-- The condition, if there is one, holds no raw text. -/
def Rawless (w : Write) : Prop :=
  ∀ c ∈ w.condition?, ∀ sql, .raw sql ∉ c.leaves

end Write

namespace Mutation

variable (m : Mutation)

/-- The texts that the values of a record put between quotes. -/
def recordTexts (r : Record) : List (List Char) :=
  r.entries.flatMap fun (column, v) =>
    (m.rendering.hooks.apply column v).quotedTexts m.rendering.mode

theorem flatMap_recordTexts (w : Write) :
    w.records.flatMap m.recordTexts = w.headTexts m.rendering := by
  rw [Write.headTexts, Write.values, List.flatMap_assoc]
  simp only [List.flatMap_map]
  rfl

/-! ## Pieces of a write -/

theorem holds_value (entry : String × SqlValue) : (m.value entry.1 entry.2).Holds
    ((m.rendering.hooks.apply entry.1 entry.2).quotedTexts m.rendering.mode) [] :=
  Fragment.holds_ofValue m.rendering.mode _

theorem holds_row (r : Record) : (m.row r).Holds (m.recordTexts r) [] := by
  have values := Fragment.Holds.intercalate ", " rfl m.holds_value r.entries
  have nameless : r.entries.flatMap (fun _ => ([] : List (List Char))) = [] := by simp
  rw [nameless] at values
  exact (values.before "(" rfl).behind ")" rfl

theorem holds_rows (verb : String) (plain : verb.toList.all Sql.isSeparator = true)
    (records : List Record) : (m.rows verb records).Holds
      ((Write.insertBatch records).headTexts m.rendering)
      ((Write.insertBatch records).headNames m.table) := by
  have table := Fragment.holds_quote (Text.trimmed m.table)
  have columns := Fragment.Holds.intercalate ", " rfl Fragment.holds_quote
    (Write.insertBatch records).columns
  have rows := Fragment.Holds.intercalate ", " rfl m.holds_row records
  have textless : (Write.insertBatch records).columns.flatMap
      (fun _ => ([] : List (List Char))) = [] := by simp
  have nameless : records.flatMap (fun _ => ([] : List (List Char))) = [] := by simp
  have texts := m.flatMap_recordTexts (.insertBatch records)
  rw [textless] at columns
  rw [Write.records] at texts
  rw [nameless, texts] at rows
  have opening := ((((Fragment.holds_separator plain).behind " " rfl).append table).behind
    " (" rfl).append columns
  have whole := (opening.behind ") VALUES " rfl).append rows
  simp only [List.nil_append, List.append_nil] at whole
  unfold Mutation.rows
  rw [Fragment.ofText_append, Fragment.ofText_append, Fragment.ofText_append,
    Fragment.ofText_append, Fragment.ofText_append, Fragment.ofText_intercalate, List.map_map]
  exact whole

theorem holds_assignment (entry : String × SqlValue) : (m.assignment entry.1 entry.2).Holds
    ((m.rendering.hooks.apply entry.1 entry.2).quotedTexts m.rendering.mode)
    (Identifier.properParts entry.1.toList) := by
  have column := (Fragment.holds_quote entry.1).behind " = " rfl
  have whole := column.append (m.holds_value entry)
  rw [List.append_nil] at whole
  rw [assignment, Fragment.ofText_append]
  exact whole

theorem holds_updateHead (changes : Record) (c : Condition) : (m.updateHead changes).Holds
    ((Write.update changes c).headTexts m.rendering)
    ((Write.update changes c).headNames m.table) := by
  have table := Fragment.holds_quote (Text.trimmed m.table)
  have assignments := Fragment.Holds.intercalate ", " rfl m.holds_assignment changes.entries
  have texts := m.flatMap_recordTexts (.update changes c)
  rw [Write.records, List.flatMap_singleton] at texts
  have names : (Write.update changes c).headNames m.table =
      Identifier.properParts (Text.trimmed m.table).toList ++
        changes.entries.flatMap fun entry => Identifier.properParts entry.1.toList := by
    rw [Write.headNames, Write.columns, Write.records]
    simp only [Record.columns, List.flatMap_map]
  have whole := ((table.before "UPDATE " rfl).behind " SET " rfl).append assignments
  rw [← texts, names, updateHead, Fragment.ofText_append, Fragment.ofText_append]
  exact whole

theorem holds_deleteHead (c : Condition) : m.deleteHead.Holds
    ((Write.delete c).headTexts m.rendering) ((Write.delete c).headNames m.table) := by
  have table := Fragment.holds_quote (Text.trimmed m.table)
  have names : (Write.delete c).headNames m.table =
      Identifier.properParts (Text.trimmed m.table).toList :=
    List.append_nil _
  rw [names, deleteHead, Fragment.ofText_append]
  exact table.before "DELETE FROM " rfl

/-- What stands before the condition holds the table, the columns and the values of the call. -/
theorem holds_head (w : Write) :
    (m.head w).Holds (w.headTexts m.rendering) (w.headNames m.table) := by
  cases w with
  | insert r => exact m.holds_rows "INSERT INTO" rfl [r]
  | insertBatch records => exact m.holds_rows "INSERT INTO" rfl records
  | replaceInto records => exact m.holds_rows "REPLACE INTO" rfl records
  | update changes c => exact m.holds_updateHead changes c
  | delete c => exact m.holds_deleteHead c

/-! ## Statements -/

/-- The whole statement holds what its head and its condition hold. -/
theorem holds_of_statement {m : Mutation} {w : Write} {s : Statement} (rawless : w.Rawless)
    (made : m.statement w = .ok s) : ∃ f : Fragment, s = f.toStatement ∧
      f.Holds (w.texts m.rendering) (w.names m.table m.rendering.hooks) := by
  have head := m.holds_head w
  rw [statement_eq] at made
  unfold Write.texts Write.names Write.comparisons
  cases refused : w.refusal? m.table with
  | some e =>
    rw [refused] at made
    cases made
  | none =>
    rw [refused] at made
    cases conditioned : w.condition? with
    | none =>
      rw [conditioned] at made
      cases made
      refine ⟨m.head w, rfl, ?_⟩
      simpa using head
    | some c =>
      rw [conditioned] at made
      obtain ⟨predicate, found, rfl⟩ := map_eq_ok_iff.mp made
      obtain ⟨compiled, -⟩ := predicate_eq_ok_iff.mp found
      have confines : predicate.Holds _ _ :=
        Condition.confines_compile (rawless c conditioned) compiled
      refine ⟨_, rfl, ?_⟩
      simpa [Condition.comparisons] using (head.behind " WHERE " rfl).append confines

/-- A write whose condition holds no raw text leaves no quote open, whatever its table, columns and
values are. The names in backticks are the parts of the table, the columns and the fields of the
condition, and none of them holds a backtick; the texts in quotes are those of the values as they
are after their hooks. Outside there are plain characters only, no two dashes in a row, and as many
question marks as values are bound. -/
theorem statement_confined {m : Mutation} {w : Write} {s : Statement} (rawless : w.Rawless)
    (made : m.statement w = .ok s) :
    ∃ ls, Sql.scan .outside s.sql.toList = (.outside, ls) ∧
      Sql.names ls = w.names m.table m.rendering.hooks ∧
      (∀ name ∈ Sql.names ls, Identifier.backtick ∉ name) ∧
      Sql.texts ls = w.texts m.rendering ∧
      (∀ ch ∈ Sql.outside ls, Sql.isPlain ch = true) ∧
      ¬ [.bare '-', .bare '-'] <:+: ls ∧
      (Sql.outside ls).count '?' = s.params.length := by
  obtain ⟨f, rfl, ls, scans, harmless⟩ := holds_of_statement rawless made
  refine ⟨ls, scans, harmless.names, ?_, harmless.texts, harmless.plain,
    harmless.dashes.not_infix, harmless.marks⟩
  intro name mem
  rw [harmless.names] at mem
  exact Write.backtick_not_mem_of_mem_names mem

/-- A quote or a backslash in a value, a backtick in a column and a dot in a table end nothing. -/
theorem statement_confined_update :
    (Write.update ⟨[("na`me", .text "it's")]⟩ (.field "u.id !=" (.text "\\"))).Rawless ∧
      statement ⟨"db.users", {}⟩
        (.update ⟨[("na`me", .text "it's")]⟩ (.field "u.id !=" (.text "\\"))) =
        .ok ⟨"UPDATE `db`.`users` SET `name` = 'it\\'s' WHERE `u`.`id` != '\\\\'", []⟩ ∧
      ∃ ls, Sql.scan .outside
          "UPDATE `db`.`users` SET `name` = 'it\\'s' WHERE `u`.`id` != '\\\\'".toList =
          (.outside, ls) ∧
        Sql.names ls = ["db".toList, "users".toList, "name".toList, "u".toList, "id".toList] ∧
        Sql.texts ls = ["it's".toList, "\\".toList] := by
  have rawless : (Write.update ⟨[("na`me", .text "it's")]⟩
      (.field "u.id !=" (.text "\\"))).Rawless := by
    intro c conditioned sql mem
    obtain rfl : Condition.field "u.id !=" (.text "\\") = c := Option.some.inj conditioned
    have single : (Condition.field "u.id !=" (.text "\\")).leaves =
        [.comparison "u.id !=" (.text "\\")] := by rfl
    rw [single, List.mem_singleton] at mem
    cases mem
  have made : statement ⟨"db.users", {}⟩
      (.update ⟨[("na`me", .text "it's")]⟩ (.field "u.id !=" (.text "\\"))) =
      .ok ⟨"UPDATE `db`.`users` SET `name` = 'it\\'s' WHERE `u`.`id` != '\\\\'", []⟩ := by
    rfl
  obtain ⟨ls, scanned, named, -, written, -⟩ := statement_confined rawless made
  exact ⟨rawless, made, ls, scanned, named.trans (by rfl), written.trans (by rfl)⟩

end Mutation

end Clausal
