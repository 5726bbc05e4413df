import Clausal.Condition.Compile
import Clausal.Proofs.Steps
/-!
# Operands

What an operator is given is first taken apart into the values it compares with, which can fail;
then each value is written on its own and the pieces are laid out. Only the second half depends on
the mode.
-/

namespace Clausal

namespace MatchOp

/-- The values that an operator compares with, if it is given as many as it takes. -/
def operands (op : MatchOp) (value : SqlValue) : Except Error (List SqlValue) :=
  match op.shape with
  | .scalar => .ok [value]
  | .set => do
    match ← value.items with
    | [] => .error (.operandCount op.symbol "at least 1" 0)
    | items => return items
  | .range => do
    match ← value.items with
    | [low, high] => return [low, high]
    | items => .error (.operandCount op.symbol "exactly 2" items.length)

/-- How the written values of an operator stand together. -/
def layout (op : MatchOp) (parts : List Fragment) : Fragment :=
  match op.shape with
  | .set => .ofText "(" ++ Fragment.intercalate ", " parts ++ .ofText ")"
  | _ => Fragment.intercalate " AND " parts

theorem modeOf_eq_of_shape {op : MatchOp} (several : op.shape ≠ .scalar) (mode : Mode) :
    op.modeOf mode = mode := by
  cases op <;> first | rfl | exact (several rfl).elim

/-- Writing an operand takes it apart, writes the values and lays them out. -/
theorem operand_eq (op : MatchOp) (mode : Mode) (value : SqlValue) :
    op.operand mode value = (op.operands value).map fun items =>
      op.layout (items.map (.ofValue (op.modeOf mode))) := by
  unfold operand operands layout
  cases shape : op.shape with
  | scalar => rfl
  | set =>
    rw [modeOf_eq_of_shape (by rw [shape]; decide)]
    cases value.items with
    | error e => rfl
    | ok items => cases items <;> rfl
  | range =>
    rw [modeOf_eq_of_shape (by rw [shape]; decide)]
    cases value.items with
    | error e => rfl
    | ok items =>
      match items with
      | [] => rfl
      | [_] => rfl
      | [low, high] => rfl
      | _ :: _ :: _ :: _ => rfl

end MatchOp

namespace FieldKey

/-- The text of a comparison up to its operand. -/
def opening (key : FieldKey) : String :=
  Identifier.quote key.field ++ " " ++ key.op.symbol ++ " "

theorem clause_eq (key : FieldKey) (mode : Mode) (value : SqlValue) :
    key.clause mode value = (key.op.operands value).map fun items =>
      .ofText key.opening ++ key.op.layout (items.map (.ofValue (key.op.modeOf mode))) := by
  unfold clause
  rw [MatchOp.operand_eq]
  cases key.op.operands value <;> rfl

theorem clause_eq_ok_iff {key : FieldKey} {mode : Mode} {value : SqlValue} {f : Fragment} :
    key.clause mode value = .ok f ↔ ∃ items, key.op.operands value = .ok items ∧
      f = .ofText key.opening ++ key.op.layout (items.map (.ofValue (key.op.modeOf mode))) := by
  rw [clause_eq]
  cases key.op.operands value with
  | error e => simp [Except.map]
  | ok items =>
    simp only [Except.map, Except.ok.injEq, exists_eq_left']
    exact eq_comm

theorem isEmpty_clause {key : FieldKey} {mode : Mode} {value : SqlValue} {f : Fragment}
    (made : key.clause mode value = .ok f) : f.isEmpty = false := by
  obtain ⟨items, -, rfl⟩ := clause_eq_ok_iff.mp made
  simp [Fragment.isEmpty, opening]

end FieldKey

end Clausal
