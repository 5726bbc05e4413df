import Clausal.Proofs.Last
import Clausal.Proofs.Select.Terminal
import Clausal.Proofs.SortedMap
import Mathlib.Data.List.Induction
/-!
# Rows by a column

Rows are stored one after the other under the text they show in a column. After any number of them
the map has the texts that were shown, and each is mapped to the last row that showed it.
-/

namespace Clausal

namespace Row

variable {row : Row} {column key : String}

/-- The text of a row in a column is the value at the first place of that name, if the row reaches
this place. -/
def Shows (row : Row) (column key : String) : Prop :=
  ∃ before after, row.columns = before ++ column :: after ∧ column ∉ before ∧
    row.values[before.length]? = some key

theorem get?_eq_some_iff : row.get? column = some key ↔ row.Shows column key := by
  rw [get?, Option.bind_eq_some_iff]
  constructor
  · rintro ⟨i, place, value⟩
    obtain ⟨inside, here, earlier⟩ := List.findIdx?_eq_some_iff_getElem.mp place
    have name : row.columns[i] = column := beq_iff_eq.mp here
    have length : (row.columns.take i).length = i := List.length_take_of_le inside.le
    refine ⟨row.columns.take i, row.columns.drop (i + 1), ?_, fun mem => ?_, ?_⟩
    · rw [← name, ← List.drop_eq_getElem_cons inside, List.take_append_drop]
    · obtain ⟨j, before, same⟩ := List.getElem_of_mem mem
      rw [length] at before
      rw [List.getElem_take] at same
      exact earlier j before (beq_iff_eq.mpr same)
    · rwa [length]
  · rintro ⟨before, after, columns, first, value⟩
    refine ⟨before.length, ?_, value⟩
    have skipped : before.findIdx? (· == column) = none :=
      List.findIdx?_eq_none_iff.mpr fun name mem => beq_eq_false_iff_ne.mpr fun same =>
        first (same ▸ mem)
    rw [columns, List.findIdx?_append, skipped, List.findIdx?_cons, beq_self_eq_true]
    simp

/-- A row shows one text in a column. -/
theorem Shows.unique {other : String} (shows : row.Shows column key)
    (also : row.Shows column other) : key = other := by
  rw [← get?_eq_some_iff] at shows also
  exact Option.some_inj.mp (shows.symm.trans also)

end Row

namespace Querier

variable {column key : String} {rows : List Row} {row r : Row}

/-- A row is the last one with a text in a column. -/
def LastShowing (column key : String) (rows : List Row) (row : Row) : Prop :=
  ∃ before after, rows = before ++ row :: after ∧ row.Shows column key ∧
    ∀ later ∈ after, ¬ later.Shows column key

theorem lastShowing_append_of_shows (shows : row.Shows column key) :
    LastShowing column key (rows ++ [row]) r ↔ r = row :=
  isLast_append_of_pos (p := (Row.Shows · column key)) shows

theorem lastShowing_append_of_not_shows (other : ¬ row.Shows column key) :
    LastShowing column key (rows ++ [row]) r ↔ LastShowing column key rows r :=
  isLast_append_of_neg (p := (Row.Shows · column key)) other

/-- What the rows leave in a map: once each text that one of them shows, and with it the last row
that shows it. -/
structure KeepsLast (column : String) (rows : List Row) (found : SortedMap Row) : Prop where
  ascending : found.keys.Pairwise (· < ·)
  keys (key : String) : key ∈ found.keys ↔ ∃ row ∈ rows, row.Shows column key
  last (key : String) (row : Row) :
    found.find? key = some row ↔ LastShowing column key rows row

namespace KeepsLast

variable {found : SortedMap Row}

theorem empty : KeepsLast column [] [] where
  ascending := .nil
  keys key := by simp [SortedMap.keys]
  last key row := by simp [SortedMap.find?, LastShowing]

/-- A row with the column takes the place of the earlier row of its text. -/
theorem store (kept : KeepsLast column rows found) (shows : row.Shows column key) :
    KeepsLast column (rows ++ [row]) (found.insert key row) where
  ascending := SortedMap.ascending_insert kept.ascending key row
  keys other := by
    have here : row.Shows column other ↔ other = key :=
      ⟨fun also => also.unique shows, fun same => same ▸ shows⟩
    rw [SortedMap.mem_keys_insert, kept.keys]
    simp [or_and_right, exists_or, here, or_comm]
  last other r := by
    rw [SortedMap.find?_insert]
    by_cases same : key = other
    · subst same
      rw [if_pos rfl, lastShowing_append_of_shows shows, Option.some_inj, eq_comm]
    · have differs : ¬ row.Shows column other := fun also => same (shows.unique also)
      rw [if_neg same, lastShowing_append_of_not_shows differs, kept.last]

/-- A row without the column changes nothing. -/
theorem skip (kept : KeepsLast column rows found) (without : ∀ key, ¬ row.Shows column key) :
    KeepsLast column (rows ++ [row]) found where
  ascending := kept.ascending
  keys key := by
    rw [kept.keys]
    simp [or_and_right, exists_or, without key]
  last key r := by
    rw [lastShowing_append_of_not_shows (without key), kept.last]

end KeepsLast

theorem rowsByColumn_append_singleton :
    rowsByColumn column (rows ++ [row]) =
      match row.get? column with
      | some key => (rowsByColumn column rows).insert key row
      | none => rowsByColumn column rows := by
  rw [rowsByColumn, List.foldl_append]
  rfl

/-- Row by row, each at its turn the last one. -/
theorem keepsLast_rowsByColumn (column : String) (rows : List Row) :
    KeepsLast column rows (rowsByColumn column rows) := by
  induction rows using List.reverseRecOn with
  | nil => exact .empty
  | append_singleton rows row kept =>
    rw [rowsByColumn_append_singleton]
    cases shown : row.get? column with
    | some key => exact kept.store (Row.get?_eq_some_iff.mp shown)
    | none =>
      refine kept.skip fun key shows => ?_
      rw [Row.get?_eq_some_iff.mpr shows] at shown
      cases shown

-- The second row is too short for the column, and the third one shows its first place of the name.
example :
    rowsByColumn "id" [⟨["id"], ["7"]⟩, ⟨["n", "id"], ["1"]⟩, ⟨["id", "id"], ["7", "8", "9"]⟩] =
      [("7", ⟨["id", "id"], ["7", "8", "9"]⟩)] := by
  decide

/-- Rows without the column could as well not be there. -/
theorem rowsByColumn_filter (column : String) (rows : List Row) :
    rowsByColumn column (rows.filter fun row => (row.get? column).isSome) =
      rowsByColumn column rows := by
  rw [rowsByColumn, rowsByColumn, List.foldl_filter]
  congr 1
  funext found row
  cases row.get? column <;> rfl

variable {σ : Type}

/-- The rows of any answer by a column. A querier that cannot be built and an executor that fails
leave their error. Otherwise the texts of the map are those that rows of the answer show in the
first column of the name, which is where they are looked up, and with each stands the last row that
shows it, as it was; rows without the column leave nothing. -/
theorem runAssociated_keeps_last (executor : Executor σ) (column : String) (q : Querier)
    (state : σ) :
    (∀ (row : Row) (key : String), row.get? column = some key ↔ row.Shows column key) ∧
    match q.build with
    | (.error e, q') => run (runAssociated executor column) q state = ((.error e, q'), state)
    | (.ok statement, q') =>
      match executor.query statement state with
      | (.error e, state') =>
        run (runAssociated executor column) q state = ((.error e, q'), state')
      | (.ok answer, state') => ∃ found,
        run (runAssociated executor column) q state = ((.ok found, q'), state') ∧
        KeepsLast column answer.rows found ∧
        rowsByColumn column (answer.rows.filter fun row => (row.get? column).isSome) = found := by
  refine ⟨fun _ _ => Row.get?_eq_some_iff, ?_⟩
  rw [run_runAssociated, run_runQuery]
  rcases q.build with ⟨e | statement, q'⟩
  · rfl
  · dsimp only
    rcases executor.query statement state with ⟨e | answer, state'⟩
    · rfl
    · exact ⟨_, rfl, keepsLast_rowsByColumn column answer.rows, rowsByColumn_filter column _⟩

end Querier

end Clausal
