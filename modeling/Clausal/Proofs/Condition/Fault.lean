import Clausal.Proofs.Condition.Leaf
/-!
# What can be wrong with a comparison

A comparison fails because of its key, its operator, its value or the number of its values. That its
shape has no meaning is never said of a comparison, only of a value or a condition that stands under
the wrong kind of key.
-/

namespace Clausal

/-- The errors that a comparison can have. -/
def Error.isOfComparison : Error → Bool
  | .unsupportedOperator _ => true
  | .operandCount _ _ _ => true
  | .invalidValue _ => true
  | .malformedKey _ _ => true
  | _ => false

theorem Error.ne_unsupportedShape_of_isOfComparison {e : Error} (fault : e.isOfComparison = true)
    (found : String) : e ≠ .unsupportedShape found := by
  rintro rfl
  cases fault

theorem FieldKey.isOfComparison_of_readOp {size : Nat} {cs : List Char} {e : Error}
    (failed : readOp size cs = .error e) : e.isOfComparison = true := by
  unfold readOp at failed
  split at failed
  · split at failed
    · cases failed
    · split at failed
      · cases failed
      · cases failed
        rfl
  · cases failed
    rfl

theorem FieldKey.isOfComparison_of_read {key : String} {e : Error}
    (failed : read key = .error e) : e.isOfComparison = true := by
  unfold read at failed
  simp only at failed
  split at failed
  · cases failed
    rfl
  · split at failed
    · cases failed
      rfl
    · rcases bind_eq_error_iff.mp failed with unread | ⟨op, -, failed⟩
      · exact isOfComparison_of_readOp unread
      · cases failed

theorem SqlValue.isOfComparison_of_items {value : SqlValue} {e : Error}
    (failed : value.items = .error e) : e.isOfComparison = true := by
  cases value <;> cases failed <;> rfl

theorem MatchOp.isOfComparison_of_operands {op : MatchOp} {value : SqlValue} {e : Error}
    (failed : op.operands value = .error e) : e.isOfComparison = true := by
  unfold operands at failed
  split at failed
  · cases failed
  · rcases bind_eq_error_iff.mp failed with itemless | ⟨items, -, failed⟩
    · exact SqlValue.isOfComparison_of_items itemless
    · cases items <;> cases failed
      rfl
  · rcases bind_eq_error_iff.mp failed with itemless | ⟨items, -, failed⟩
    · exact SqlValue.isOfComparison_of_items itemless
    · split at failed
      · cases failed
      · cases failed
        rfl

theorem FieldKey.isOfComparison_of_clause {key : FieldKey} {mode : Mode} {value : SqlValue}
    {e : Error} (failed : key.clause mode value = .error e) : e.isOfComparison = true := by
  rw [clause_eq] at failed
  cases taken : key.op.operands value with
  | error e' =>
    rw [taken] at failed
    cases failed
    exact MatchOp.isOfComparison_of_operands taken
  | ok items =>
    rw [taken] at failed
    cases failed

theorem Leaf.isOfComparison_of_fragment {r : Rendering} {key : String} {value : SqlValue}
    {e : Error} (failed : (comparison key value).fragment r = .error e) :
    e.isOfComparison = true := by
  rcases bind_eq_error_iff.mp failed with unread | ⟨parsed, -, failed⟩
  · exact FieldKey.isOfComparison_of_read unread
  · exact FieldKey.isOfComparison_of_clause failed

end Clausal
