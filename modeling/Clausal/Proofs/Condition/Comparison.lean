import Clausal.Proofs.Condition.Leaf
/-!
# Comparisons

A leaf that compares becomes a comparison first: its key taken apart, and the values that its
operator is given, after the hook of the field. What a comparison writes depends on nothing else.
-/

namespace Clausal

structure Comparison where
  key : FieldKey
  values : List SqlValue

namespace Comparison

/-- The mode in which the values are written. -/
def mode (mode : Mode) (m : Comparison) : Mode :=
  m.key.op.modeOf mode

def fragment (mode : Mode) (m : Comparison) : Fragment :=
  .ofText m.key.opening ++ m.key.op.layout (m.values.map (.ofValue (m.mode mode)))

theorem params_fragment (mode : Mode) (m : Comparison) : (m.fragment mode).params =
    m.values.flatMap fun v => (Fragment.ofValue (m.mode mode) v).params := by
  rw [fragment, Fragment.params_append, Fragment.params_ofText, List.nil_append]
  unfold MatchOp.layout
  cases m.key.op.shape <;> simp [Fragment.params_intercalate, List.flatMap_map]

/-- There are as many values as the operator takes. -/
def Fits (m : Comparison) : Prop :=
  (m.key.op.shape = .scalar ∧ ∃ v, m.values = [v]) ∨
    (m.key.op.shape = .set ∧ m.values ≠ []) ∨
    (m.key.op.shape = .range ∧ ∃ low high, m.values = [low, high])

end Comparison

theorem MatchOp.fits_of_operands {key : FieldKey} {value : SqlValue} {values : List SqlValue}
    (taken : key.op.operands value = .ok values) : Comparison.Fits ⟨key, values⟩ := by
  unfold MatchOp.operands at taken
  cases shape : key.op.shape with
  | scalar =>
    rw [shape] at taken
    cases taken
    exact .inl ⟨shape, value, rfl⟩
  | set =>
    rw [shape] at taken
    obtain ⟨items, -, counted⟩ := bind_eq_ok_iff.mp taken
    cases items with
    | nil => cases counted
    | cons item rest =>
      cases counted
      exact .inr (.inl ⟨shape, List.cons_ne_nil item rest⟩)
  | range =>
    rw [shape] at taken
    obtain ⟨items, -, counted⟩ := bind_eq_ok_iff.mp taken
    match items with
    | [] => cases counted
    | [_] => cases counted
    | [low, high] =>
      cases counted
      exact .inr (.inr ⟨shape, low, high, rfl⟩)
    | _ :: _ :: _ :: _ => cases counted

/-- The comparison that a leaf makes, if it makes one. -/
def Leaf.comparison? (hooks : Hooks) : Leaf → Option Comparison
  | .comparison key value =>
    match FieldKey.read key with
    | .error _ => none
    | .ok parsed =>
      match parsed.op.operands (hooks.apply parsed.field value) with
      | .error _ => none
      | .ok values => some ⟨parsed, values⟩
  | _ => none

/-- The comparisons of a tree, from left to right. -/
def Condition.comparisons (hooks : Hooks) (c : Condition) : List Comparison :=
  c.leaves.filterMap (Leaf.comparison? hooks)

/-- A leaf that becomes text is raw text or makes a comparison. -/
theorem Leaf.comparison_of_fragment {r : Rendering} {leaf : Leaf} {f : Fragment}
    (made : leaf.fragment r = .ok f) : (∃ sql, leaf = .raw sql ∧ f = .ofText (Text.trimmed sql)) ∨
      ∃ m, leaf.comparison? r.hooks = some m ∧ m.Fits ∧ f = m.fragment r.mode := by
  cases leaf with
  | raw sql =>
    cases made
    exact .inl ⟨sql, rfl, rfl⟩
  | comparison key value =>
    obtain ⟨parsed, read, clause⟩ := fragment_comparison_eq_ok_iff.mp made
    obtain ⟨values, taken, written⟩ := FieldKey.clause_eq_ok_iff.mp clause
    refine .inr ⟨⟨parsed, values⟩, ?_, MatchOp.fits_of_operands taken, written⟩
    simp only [comparison?, read, taken]
  | strayValue key value => cases made
  | strayCondition key => exact (fragment_strayCondition_ne_ok r key f made).elim

end Clausal
