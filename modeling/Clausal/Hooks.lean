import Clausal.SqlValue.Basic
import Clausal.Text.Quoted
/-!
Overrides of values by field. A hook replaces each value of its field before the value is written;
fields without a hook keep their values.
-/

namespace Clausal

/-- At most one hook for each field. -/
structure Hooks where
  entries : List (String × (SqlValue → SqlValue)) := []

namespace Hooks

/-- No hooks. -/
def empty : Hooks := {}

instance : Inhabited Hooks := ⟨empty⟩

/-- Sets the hook of a field; an earlier one is forgotten. -/
def register (hooks : Hooks) (field : String) (hook : SqlValue → SqlValue) : Hooks :=
  ⟨(field, hook) :: hooks.entries.filter (·.1 != field)⟩

/-- Whether no field has a hook. -/
def isEmpty (hooks : Hooks) : Bool :=
  hooks.entries.isEmpty

/-- The hook of a field. -/
def find? (hooks : Hooks) (field : String) : Option (SqlValue → SqlValue) :=
  (hooks.entries.find? (·.1 == field)).map Prod.snd

/-- The value to write for a field. -/
def apply (hooks : Hooks) (field : String) (value : SqlValue) : SqlValue :=
  match hooks.find? field with
  | some hook => hook value
  | none => value

/-- The fields that have hooks, in ascending order. -/
def fields (hooks : Hooks) : List String :=
  (hooks.entries.map Prod.fst).mergeSort fun a b => decide (a ≤ b)

/-- The hooks in a diagnostic text. -/
def describe (hooks : Hooks) : String :=
  "CoercionHooks \x7b fields: " ++ Text.quotedList hooks.fields ++ " \x7d"

theorem find?_empty (field : String) : empty.find? field = none := rfl

theorem find?_register (hooks : Hooks) (field other : String) (hook : SqlValue → SqlValue) :
    (hooks.register field hook).find? other =
      if field = other then some hook else hooks.find? other := by
  by_cases same : field = other
  · simp [find?, register, same]
  · have kept : (hooks.entries.filter (·.1 != field)).find? (·.1 == other) =
        hooks.entries.find? (·.1 == other) := by
      rw [List.find?_filter]
      congr 1
      funext entry
      by_cases found : entry.1 = other
      · simp [found, Ne.symm same]
      · simp [found]
    simp [find?, register, same, kept]

end Hooks

end Clausal
