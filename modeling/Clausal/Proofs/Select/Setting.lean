import Clausal.Select.Querier
/-!
# Settings of a querier

Each setter writes one slot of a querier. Settings of different slots commute, and a setting forgets
the one before it in its own slot, except for joins and bound values, which are collected. So of any
settings only the lasting ones count: all joins, all bound values, and the last of each other slot.
-/

namespace Clausal.Querier

/-- What a setter writes to. -/
inductive Slot where
  | columns
  | table
  | joins
  | filter
  | groupBy
  | having
  | orderBy
  | offset
  | limit
  | mode
  | hooks
  | values
deriving DecidableEq

/-- Whether a slot keeps all that is written to it, in order. -/
def Slot.collects : Slot → Bool
  | joins => true
  | values => true
  | _ => false

/-- A setter with its arguments. -/
inductive Setting where
  | columns (text : String)
  | table (name : String)
  | join (kind : JoinKind) (table on : String)
  | filter (condition : Condition)
  | groupBy (text : String)
  | having (condition : Condition)
  | orderBy (text : String)
  | offset (rows : UInt64)
  | limit (rows : UInt64)
  | parameterized
  | hooks (hooks : Hooks)
  | value (v : SqlValue)

namespace Setting

def slot : Setting → Slot
  | columns _ => .columns
  | table _ => .table
  | join _ _ _ => .joins
  | filter _ => .filter
  | groupBy _ => .groupBy
  | having _ => .having
  | orderBy _ => .orderBy
  | offset _ => .offset
  | limit _ => .limit
  | parameterized => .mode
  | hooks _ => .hooks
  | value _ => .values

/-- Calls the setter. -/
def write (q : Querier) : Setting → Querier
  | columns text => q.select text
  | table name => q.table name
  | join kind other on => q.join kind other on
  | filter condition => q.filter condition
  | groupBy text => q.groupBy text
  | having condition => q.having condition
  | orderBy text => q.orderBy text
  | offset rows => q.offset rows
  | limit rows => q.limit rows
  | parameterized => q.parameterized
  | hooks all => q.withHooks all
  | value v => q.bind v

/-- The settings that count: those of slots that collect, and those that no later one overwrites. -/
def lasting : List Setting → List Setting
  | [] => []
  | s :: rest =>
    if s.slot.collects || rest.all (·.slot != s.slot) then s :: lasting rest else lasting rest

end Setting

/-- Calls one setter after another. -/
def write (q : Querier) (settings : List Setting) : Querier :=
  settings.foldl Setting.write q

@[simp] theorem write_cons (q : Querier) (s : Setting) (rest : List Setting) :
    q.write (s :: rest) = (s.write q).write rest := rfl

theorem write_append (q : Querier) (first second : List Setting) :
    q.write (first ++ second) = (q.write first).write second :=
  List.foldl_append

/-! ## Order of settings -/

namespace Setting

/-- A setter forgets the statement. -/
theorem memo_write (q : Querier) (s : Setting) : (s.write q).memo = none := by
  cases s <;> rfl

/-- What a setter makes of the query does not depend on the statement. -/
theorem query_write_congr {q q' : Querier} (same : q.query = q'.query) (s : Setting) :
    (s.write q).query = (s.write q').query := by
  cases q
  cases q'
  cases same
  cases s <;> rfl

theorem isGiven_write (q : Querier) (s : Setting) : (s.write q).isGiven = q.isGiven := by
  cases s with
  | value v => simp [write, bind, isGiven, modify]
  | _ => rfl

/-- Settings of different slots can change places. -/
theorem write_comm {s t : Setting} (differ : t.slot ≠ s.slot) (q : Querier) :
    t.write (s.write q) = s.write (t.write q) := by
  cases s <;> cases t <;> first | rfl | exact absurd rfl differ

/-- The later of two settings of one slot counts. -/
theorem write_overwrites {s t : Setting} (single : s.slot.collects = false)
    (same : t.slot = s.slot) (q : Querier) : t.write (s.write q) = t.write q := by
  cases s <;> first
    | exact Bool.noConfusion single
    | cases t <;> first | rfl | exact Slot.noConfusion same

end Setting

/-- A setting does not count when a later one writes its slot. -/
theorem write_of_overwritten {s : Setting} (single : s.slot.collects = false)
    {rest : List Setting} (later : ∃ t ∈ rest, t.slot = s.slot) (q : Querier) :
    (s.write q).write rest = q.write rest := by
  induction rest generalizing q with
  | nil =>
    obtain ⟨t, mem, -⟩ := later
    cases mem
  | cons next rest ih =>
    rw [write_cons, write_cons]
    by_cases same : next.slot = s.slot
    · rw [Setting.write_overwrites single same]
    -- The next setting is of another slot, so it changes places with the one that does not count.
    · have still : ∃ t ∈ rest, t.slot = s.slot := by
        obtain ⟨t, mem, here⟩ := later
        rcases List.mem_cons.mp mem with rfl | mem
        · exact absurd here same
        · exact ⟨t, mem, here⟩
      rw [Setting.write_comm same, ih still]

/-- Only the lasting settings count. -/
theorem write_lasting (settings : List Setting) (q : Querier) :
    q.write (Setting.lasting settings) = q.write settings := by
  induction settings generalizing q with
  | nil => rfl
  | cons s rest ih =>
    rw [Setting.lasting]
    split
    next => rw [write_cons, write_cons, ih]
    next overwritten =>
      simp only [Bool.or_eq_true, not_or, Bool.not_eq_true, List.all_eq_false, bne_iff_ne, ne_eq,
        Decidable.not_not] at overwritten
      obtain ⟨single, later⟩ := overwritten
      rw [ih, write_cons, write_of_overwritten single later]

/-- What each setting of a kind leaves alone, several of them leave alone. -/
theorem write_preserves {α : Type} (view : Querier → α) {keeps : Setting → Bool}
    (step : ∀ s : Setting, keeps s = true → ∀ q, view (s.write q) = view q)
    {settings : List Setting} (all : settings.all keeps = true) (q : Querier) :
    view (q.write settings) = view q := by
  induction settings generalizing q with
  | nil => rfl
  | cons s rest ih =>
    rw [List.all_cons, Bool.and_eq_true] at all
    rw [write_cons, ih all.2, step s all.1]

theorem isGiven_write (settings : List Setting) (q : Querier) :
    (q.write settings).isGiven = q.isGiven :=
  write_preserves isGiven (fun s _ q => Setting.isGiven_write q s)
    (List.all_eq_true.mpr fun _ _ => rfl : settings.all (fun _ => true) = true) q

/-- Equal queries stay equal under the same settings. -/
theorem query_write_congr {q q' : Querier} (same : q.query = q'.query) (settings : List Setting) :
    (q.write settings).query = (q'.write settings).query := by
  induction settings generalizing q q' with
  | nil => exact same
  | cons s rest ih => exact ih (Setting.query_write_congr same s)

/-! ## Origins -/

/-- How a querier is made. -/
inductive Origin where
  | selection
  | text (sql : String)

namespace Origin

/-- The querier before any setting. -/
def querier : Origin → Querier
  | selection => {}
  | text sql => ofText sql

/-- Whether a setting means anything to the querier: only a given text has values bound to it. -/
def takes (origin : Origin) (s : Setting) : Bool :=
  origin.querier.isGiven || s.slot != .values

/-- A new querier of the same origin that is given the lasting settings only. -/
def fresh (origin : Origin) (settings : List Setting) : Querier :=
  origin.querier.write (Setting.lasting (settings.filter origin.takes))

end Origin

/-- Without a given text, binding a value leaves the query as it is. -/
theorem query_write_value {q : Querier} (plain : q.isGiven = false) {s : Setting}
    (binds : s.slot = .values) : (s.write q).query = q.query := by
  obtain ⟨⟨given, selection⟩, memo⟩ := q
  have none : given = none := by simpa [isGiven] using plain
  subst none
  cases s <;> first | rfl | cases binds

/-- Settings that mean nothing to a querier can be left out. -/
theorem query_write_filter {q : Querier} (settings : List Setting) :
    (q.write (settings.filter fun s => q.isGiven || s.slot != .values)).query =
      (q.write settings).query := by
  induction settings generalizing q with
  | nil => rfl
  | cons s rest ih =>
    have kept := ih (q := s.write q)
    rw [Setting.isGiven_write] at kept
    rw [List.filter_cons, write_cons, ← kept]
    split
    next => rw [write_cons]
    next idle =>
      obtain ⟨plain, binds⟩ : q.isGiven = false ∧ s.slot = .values := by simpa using idle
      exact query_write_congr (query_write_value plain binds).symm _

/-- Queriers that are given the lasting settings only have the query of all settings. -/
theorem Origin.query_fresh (origin : Origin) (settings : List Setting) :
    (origin.fresh settings).query = (origin.querier.write settings).query := by
  rw [fresh, write_lasting]
  exact query_write_filter settings

end Clausal.Querier
