import Clausal.MySql.Server
import Clausal.Proofs.Select.Modes
import Clausal.Proofs.Select.Ways
import Clausal.Proofs.Write.Modes
/-!
# Bound values

What is bound to a placeholder is null, a number or a text. A condition, a selection or a write has
values of these kinds only among its parameters, whatever the hooks make of a value, so they are
bound as they are. A given text can have any value beside it; then the parameter of the value is
bound, which is written by the same literal.
-/

namespace Clausal

/-! ## Canonical values -/

namespace SqlValue

/-- The kinds of values that can be bound: no truth value, no list, nothing that stands for a text,
and no number that is none. -/
inductive IsCanonical : SqlValue → Prop
  | null : IsCanonical null
  | int (n : Int64) : IsCanonical (int n)
  | uint (n : UInt64) : IsCanonical (uint n)
  | float {x : Float} : x.isFinite = true → IsCanonical (float x)
  | text (s : String) : IsCanonical (text s)

theorem isCanonical_param (v : SqlValue) : v.param.IsCanonical := by
  cases v with
  | null => exact .null
  | bool b => exact .int _
  | int n => exact .int n
  | uint n => exact .uint n
  | float x =>
    rw [param]
    split
    next finite => exact .float finite
    next => exact .null
  | _ => exact .text _

/-- Canonical values are those that are bound as they are. -/
theorem param_eq_self_iff {v : SqlValue} : v.param = v ↔ v.IsCanonical := by
  constructor
  · intro same
    rw [← same]
    exact v.isCanonical_param
  · intro canonical
    cases canonical with
    | float finite => exact if_pos finite
    | _ => rfl

theorem param_param (v : SqlValue) : v.param.param = v.param :=
  param_eq_self_iff.mpr v.isCanonical_param

end SqlValue

/-! ## Statements of templates -/

namespace Template

theorem canonical_render {mode : Mode} {t : Template} :
    ∀ p ∈ (t.render mode).params, p.IsCanonical := by
  cases mode with
  | inline =>
    rw [params_render_inline]
    exact nofun
  | parameterized =>
    rw [params_render_parameterized, List.forall_mem_map]
    exact fun v _ => v.isCanonical_param

theorem canonical_statement {mode : Mode} {made : Except Error Template} {s : Statement}
    (written : statement mode made = .ok s) : ∀ p ∈ s.params, p.IsCanonical := by
  obtain ⟨t, -, rfl⟩ := map_eq_ok_iff.mp written
  exact canonical_render

end Template

namespace MySql

/-! ## Bindings -/

namespace Binding

/-- The value that is bound. -/
def value : Binding → SqlValue
  | null => .null
  | int n => .int n
  | uint n => .uint n
  | float x => .float x
  | text s => .text s

/-- The value that is bound for a parameter, where something else is done with a parameter that is
not canonical. -/
def ofValueOr (fallback : SqlValue → Binding) (v : SqlValue) : Binding :=
  match v.param with
  | .null => null
  | .int n => int n
  | .uint n => uint n
  | .float x => float x
  | .text s => text s
  | other => fallback other

theorem ofValue_eq : ofValue = ofValueOr fun other => text other.plain :=
  rfl

/-- Whatever is done with parameters that are not canonical, there are none. -/
theorem ofValueOr_eq (fallback : SqlValue → Binding) (v : SqlValue) :
    ofValueOr fallback v = ofValue v := by
  have canonical := v.isCanonical_param
  rw [ofValue_eq, ofValueOr, ofValueOr]
  -- The kinds of canonical values are the cases before the last one.
  generalize v.param = p at canonical ⊢
  cases canonical <;> rfl

theorem value_ofValue (v : SqlValue) : (ofValue v).value = v.param := by
  have canonical := v.isCanonical_param
  unfold ofValue
  generalize v.param = p at canonical ⊢
  cases canonical <;> rfl

end Binding

/-- The values that are bound when a statement is executed, in order. They are canonical, and it
makes no difference what would be done with others. -/
structure Binds (s : Statement) (values : List SqlValue) : Prop where
  bound : (Call.ofStatement s).bindings.map Binding.value = values
  canonical : ∀ v ∈ values, v.IsCanonical ∧ v.param = v
  fallback (fallback : SqlValue → Binding) :
    s.params.map (Binding.ofValueOr fallback) = (Call.ofStatement s).bindings

theorem binds_params (s : Statement) : Binds s (s.params.map SqlValue.param) where
  bound := by
    rw [Call.ofStatement, List.map_map]
    exact List.map_congr_left fun v _ => Binding.value_ofValue v
  canonical := by
    rw [List.forall_mem_map]
    exact fun v _ => ⟨v.isCanonical_param, v.param_param⟩
  fallback fallback := List.map_congr_left fun v _ => Binding.ofValueOr_eq fallback v

/-- Canonical parameters are bound as they are. -/
theorem binds_self {s : Statement} (canonical : ∀ p ∈ s.params, p.IsCanonical) :
    Binds s s.params := by
  have same : s.params.map SqlValue.param = s.params :=
    (List.map_congr_left fun p mem => SqlValue.param_eq_self_iff.mpr (canonical p mem)).trans
      (List.map_id _)
  have binds := binds_params s
  rwa [same] at binds

/-! ## Statements -/

open Querier hiding Call

/-- What a selection is fetched or counted with is bound as it is. -/
theorem binds_selection {q : Querier} (coherent : q.Coherent) (plain : q.isGiven = false)
    {s : Statement} (made : q.build.1 = .ok s ∨ q.countStatement = .ok s) : Binds s s.params := by
  rw [build_eq_template coherent plain, countStatement_eq_template plain] at made
  rcases made with made | made
  · exact binds_self (Template.canonical_statement made)
  · exact binds_self (Template.canonical_statement made)

theorem binds_condition {hooks : Hooks} {mode : Mode} {logic : Logic} {c : Condition}
    {f : Fragment} (made : c.compile ⟨hooks, mode⟩ logic = .ok f) :
    Binds f.toStatement f.params := by
  rw [Condition.compile_eq_render] at made
  obtain ⟨t, -, rfl⟩ := map_eq_ok_iff.mp made
  exact binds_self (s := (t.render mode).toStatement) Template.canonical_render

theorem binds_write {table : String} {hooks : Hooks} {mode : Mode} {w : Write} {s : Statement}
    (made : Mutation.statement ⟨table, ⟨hooks, mode⟩⟩ w = .ok s) : Binds s s.params := by
  rw [Mutation.statement_eq_template] at made
  exact binds_self (Template.canonical_statement made)

/-- Whatever the trees, the records and the hooks are, the parameters of conditions, selections and
writes are canonical and bound as they are. A given text keeps the values that were bound to it. In
the place of each of them a canonical value is bound that is written by the same literal. -/
theorem bindings_canonical {σ : Type} :
    (∀ hooks mode logic (c : Condition) f, c.compile ⟨hooks, mode⟩ logic = .ok f →
      Binds f.toStatement f.params) ∧
    (∀ (calls : List (Querier.Call σ)) state, ∃ q state',
      performAll calls (Origin.selection.querier, state) = (q, state') ∧
      ∀ s, q.build.1 = .ok s ∨ q.countStatement = .ok s → Binds s s.params) ∧
    (∀ table hooks mode (w : Write) s,
      Mutation.statement ⟨table, ⟨hooks, mode⟩⟩ w = .ok s → Binds s s.params) ∧
    ∀ sql (calls : List (Querier.Call σ)) state, ∃ q state' s,
      performAll calls ((Origin.text sql).querier, state) = (q, state') ∧
      q.build.1 = .ok s ∧
      s = ⟨sql, (calls.flatMap Querier.Call.settings).filterMap Setting.value?⟩ ∧
      Binds s (s.params.map SqlValue.param) ∧
      ∀ v ∈ s.params, v.param.literal = v.literal := by
  refine ⟨fun _ _ _ _ _ => binds_condition, fun calls state => ?_,
    fun _ _ _ _ _ => binds_write, fun sql calls state => ?_⟩
  · have reached := follows_performAll calls Origin.selection.coherent state
    exact ⟨_, _, rfl, fun s => binds_selection reached.coherent (plain_of_follows reached)⟩
  · have reached := follows_performAll calls (Origin.text sql).coherent state
    generalize performAll calls ((Origin.text sql).querier, state) = ended at reached ⊢
    obtain ⟨q, state'⟩ := ended
    have given := congrArg Query.given reached.query
    rw [given_write] at given
    refine ⟨q, state', _, rfl, ?_, rfl, binds_params _, fun v _ => v.literal_param⟩
    rw [build_of_coherent reached.coherent, Query.statement, given]
    rfl

/-- A truth value is bound as a number, and a list that a hook makes as a text. -/
theorem bindings_canonical_hook :
    ∃ s, Mutation.statement ⟨"t", ⟨Hooks.empty.register "b" fun v => .list [v, v], .parameterized⟩⟩
        (.insert ⟨[("a", .bool true), ("b", .int 2)]⟩) = .ok s ∧
      s.params = [.int 1, .text "2,2"] ∧ Binds s s.params := by
  obtain ⟨-, -, writes, -⟩ := bindings_canonical (σ := Unit)
  exact ⟨_, rfl, rfl, writes "t" (Hooks.empty.register "b" fun v => .list [v, v]) .parameterized
    (.insert ⟨[("a", .bool true), ("b", .int 2)]⟩) _ rfl⟩

end MySql

end Clausal
