import Clausal.Proofs.Last
import Clausal.Write.Record
import Mathlib.Data.List.Induction
import Mathlib.Data.List.Nodup
/-!
# Records as ordered maps

Setting a column again changes its value and not its place. So after any settings a record has each
of their columns once, in the order in which they were first set, and each has the value that it was
last set to. Nothing else of the settings is left: a value that is set over could have been any
other.
-/

namespace Clausal.Record

variable {r r' : Record} {column other : String} {value w : SqlValue}
  {entries settings others : List (String × SqlValue)}

/-- Sets columns one after another. -/
def setAll (r : Record) (settings : List (String × SqlValue)) : Record :=
  settings.foldl (fun r (column, value) => r.set column value) r

theorem setAll_ofList (collected settings : List (String × SqlValue)) :
    (ofList collected).setAll settings = ofList (collected ++ settings) :=
  List.foldl_append.symm

theorem ofList_append_singleton (settings : List (String × SqlValue)) (column : String)
    (value : SqlValue) :
    ofList (settings ++ [(column, value)]) = (ofList settings).set column value :=
  (setAll_ofList settings [(column, value)]).symm

/-! ## One setting -/

theorem columns_setEntry (column : String) (value : SqlValue)
    (entries : List (String × SqlValue)) :
    (setEntry column value entries).map Prod.fst =
      if column ∈ entries.map Prod.fst then entries.map Prod.fst
      else entries.map Prod.fst ++ [column] := by
  induction entries with
  | nil => rfl
  | cons entry rest ih =>
    obtain ⟨name, kept⟩ := entry
    rw [setEntry]
    by_cases same : name = column
    · simp [same]
    · rw [if_neg same, List.map_cons, ih, List.map_cons]
      by_cases mem : column ∈ rest.map Prod.fst <;> simp [mem, Ne.symm same]

/-- A column that is new goes to the end, any other stays where it is. -/
theorem columns_set (r : Record) (column : String) (value : SqlValue) :
    (r.set column value).columns =
      if column ∈ r.columns then r.columns else r.columns ++ [column] :=
  columns_setEntry column value r.entries

theorem mem_setEntry (distinct : (entries.map Prod.fst).Nodup) :
    (other, w) ∈ setEntry column value entries ↔
      if other = column then w = value else (other, w) ∈ entries := by
  induction entries with
  | nil => by_cases same : other = column <;> simp [setEntry, same]
  | cons entry rest ih =>
    obtain ⟨name, kept⟩ := entry
    obtain ⟨single, distinct⟩ := List.nodup_cons.mp distinct
    rw [setEntry]
    by_cases here : name = column
    · subst here
      -- Behind the entry that is written over, its column does not stand again.
      have gone (v : SqlValue) : (name, v) ∉ rest := fun mem =>
        single (List.mem_map.mpr ⟨_, mem, rfl⟩)
      by_cases same : other = name <;> simp [same, gone]
    · rw [if_neg here, List.mem_cons, ih distinct]
      by_cases same : other = column
      · simp [same, Ne.symm here]
      · simp [same]

/-- In a record that has each column once, a setting changes the value of its column and of no
other. -/
theorem mem_entries_set (distinct : r.columns.Nodup) :
    (other, w) ∈ (r.set column value).entries ↔
      if other = column then w = value else (other, w) ∈ r.entries :=
  mem_setEntry distinct

/-! ## All settings -/

/-- A value is the one that a column was last set to. -/
def LastSet (settings : List (String × SqlValue)) (column : String) (value : SqlValue) : Prop :=
  IsLast (fun setting => setting.1 = column) settings (column, value)

/-- The columns in the order in which they were first set. -/
def firstOrder (settings : List (String × SqlValue)) : List String :=
  (settings.map Prod.fst).eraseDups

/-- What is left of settings: each column once, at the place of its first setting, and with it the
value of its last. -/
structure Gathers (settings : List (String × SqlValue)) (r : Record) : Prop where
  distinct : r.columns.Nodup
  order : r.columns = firstOrder settings
  last (column : String) (value : SqlValue) :
    (column, value) ∈ r.entries ↔ LastSet settings column value

theorem lastSet_append (settings others : List (String × SqlValue)) :
    LastSet (settings ++ others) column value ↔ LastSet others column value ∨
      LastSet settings column value ∧ column ∉ others.map Prod.fst := by
  unfold LastSet
  rw [isLast_append]
  simp only [List.mem_map, not_exists, not_and]

theorem lastSet_singleton :
    LastSet [(column, value)] other w ↔ other = column ∧ w = value := by
  unfold LastSet
  rw [isLast_singleton, Prod.mk.injEq, and_iff_left_of_imp]
  exact fun same => same.1.symm

theorem lastSet_append_singleton : LastSet (settings ++ [(column, value)]) other w ↔
    if other = column then w = value else LastSet settings other w := by
  rw [lastSet_append, lastSet_singleton]
  by_cases same : other = column <;> simp [same]

/-- A setting of another column does not count. -/
theorem lastSet_append_cons (differs : other ≠ column) :
    LastSet (settings ++ (column, value) :: others) other w ↔
      LastSet (settings ++ others) other w := by
  rw [List.append_cons, lastSet_append _ others, lastSet_append _ others,
    lastSet_append_singleton, if_neg differs]

theorem firstOrder_append_singleton : firstOrder (settings ++ [(column, value)]) =
    if column ∈ firstOrder settings then firstOrder settings
    else firstOrder settings ++ [column] := by
  unfold firstOrder
  rw [List.map_append, List.eraseDups_append]
  by_cases mem : column ∈ settings.map Prod.fst
  · rw [if_pos (List.mem_eraseDups.mpr mem)]
    simp [List.removeAll, mem]
  · rw [if_neg (mt List.mem_eraseDups.mp mem)]
    simp [List.removeAll, mem, List.eraseDups_cons]

theorem Gathers.empty : Gathers [] {} where
  distinct := List.nodup_nil
  order := rfl
  last column value := by simp [LastSet, IsLast]

/-- One more setting takes the place of the earlier ones of its column. -/
theorem Gathers.set (gathers : Gathers settings r) (column : String) (value : SqlValue) :
    Gathers (settings ++ [(column, value)]) (r.set column value) where
  distinct := by
    rw [columns_set]
    split
    · exact gathers.distinct
    next new =>
      rw [← List.concat_eq_append]
      exact gathers.distinct.concat new
  order := by rw [columns_set, firstOrder_append_singleton, gathers.order]
  last other w := by
    rw [mem_entries_set gathers.distinct, lastSet_append_singleton, gathers.last]

/-- Setting by setting, each at its turn the last one. -/
theorem gathers_ofList (settings : List (String × SqlValue)) :
    Gathers settings (ofList settings) := by
  induction settings using List.reverseRecOn with
  | nil => exact .empty
  | append_singleton settings setting gathers =>
    obtain ⟨column, value⟩ := setting
    rw [ofList_append_singleton]
    exact gathers.set column value

-- A column that is set again keeps its place before the other one.
example : (ofList [("a", .int 1), ("b", .int 2), ("a", .int 3)]).entries =
    [("a", .int 3), ("b", .int 2)] :=
  rfl

/-! ## What settings have in common -/

/-- Records that have each column once are equal when they have the same columns in the same order
and the same entries. -/
theorem eq_of_mem_iff (distinct : r.columns.Nodup) (columns : r.columns = r'.columns)
    (same : ∀ column value, (column, value) ∈ r.entries ↔ (column, value) ∈ r'.entries) :
    r = r' := by
  have length : r.entries.length = r'.entries.length := by
    simpa [Record.columns] using congrArg List.length columns
  have entries : r.entries = r'.entries := by
    refine List.ext_getElem length fun i here there => ?_
    -- Both entries are in the one record and have the same column there, so they are one entry.
    have mem : r'.entries[i] ∈ r.entries := (same _ _).mpr (List.getElem_mem there)
    refine List.inj_on_of_nodup_map distinct (List.getElem_mem here) mem ?_
    have name : r.columns[i]? = r'.columns[i]? := by rw [columns]
    simpa [Record.columns, here, there] using name
  cases r
  cases r'
  exact congrArg Record.mk entries

/-- Two ways to set columns agree on the order of the first settings and on the values of the
last. -/
structure Agree (settings others : List (String × SqlValue)) : Prop where
  order : firstOrder settings = firstOrder others
  last (column : String) (value : SqlValue) :
    LastSet settings column value ↔ LastSet others column value

theorem ofList_eq_iff : ofList settings = ofList others ↔ Agree settings others := by
  have one := gathers_ofList settings
  have two := gathers_ofList others
  constructor
  · intro same
    rw [← same] at two
    exact ⟨one.order.symm.trans two.order, fun column value =>
      (one.last column value).symm.trans (two.last column value)⟩
  · intro agree
    refine eq_of_mem_iff one.distinct (by rw [one.order, two.order, agree.order]) ?_
    intro column value
    rw [one.last, two.last, agree.last]

/-- What is set before another setting of its column does not matter. -/
theorem agree_of_overwritten (before between after : List (String × SqlValue)) (column : String)
    (first second last : SqlValue) :
    Agree (before ++ (column, first) :: between ++ (column, last) :: after)
      (before ++ (column, second) :: between ++ (column, last) :: after) where
  order := by simp [firstOrder]
  last other value := by
    -- For the column itself the later setting decides, and for any other one neither value counts.
    rw [lastSet_append _ ((column, last) :: after), lastSet_append _ ((column, last) :: after)]
    by_cases same : other = column
    · simp [same]
    · rw [lastSet_append_cons same, lastSet_append_cons same]

/-- Records are ordered maps. Whether columns are collected or set one by one, the record has each
of them once, in the order of their first settings and with the values of their last. A setting that
a later one of its column overwrites could have any other value, and altogether two ways to set
columns give the same record exactly when they agree on first settings and last values. -/
theorem ofList_ordered_map :
    (∀ collected settings : List (String × SqlValue),
      (ofList collected).setAll settings = ofList (collected ++ settings) ∧
        Gathers (collected ++ settings) ((ofList collected).setAll settings)) ∧
      (∀ (before between after : List (String × SqlValue)) (column : String)
        (first second last : SqlValue),
        ofList (before ++ (column, first) :: between ++ (column, last) :: after) =
          ofList (before ++ (column, second) :: between ++ (column, last) :: after)) ∧
      ∀ settings others : List (String × SqlValue),
        ofList settings = ofList others ↔ Agree settings others := by
  refine ⟨fun collected settings => ?_, ?_, fun _ _ => ofList_eq_iff⟩
  · rw [setAll_ofList]
    exact ⟨rfl, gathers_ofList _⟩
  · intro before between after column first second last
    exact ofList_eq_iff.mpr (agree_of_overwritten before between after column first second last)

end Clausal.Record
