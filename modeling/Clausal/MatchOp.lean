/-!
The operators that compare a field with values.
-/

namespace Clausal

/-- How an operator takes its values. -/
inductive OperandShape where
  /-- One value. -/
  | scalar
  /-- A list of at least one value. -/
  | set
  /-- A list of exactly two values. -/
  | range
deriving DecidableEq

/-- A comparison. The two spellings of inequality are different operators. -/
inductive MatchOp where
  | equal
  | notEqual
  | greater
  | atLeast
  | less
  | atMost
  | differs
  | like
  | notLike
  | is
  | within
  | notWithin
  | between
  | notBetween
deriving DecidableEq

namespace MatchOp

/-- All operators. -/
def all : List MatchOp :=
  [equal, notEqual, greater, atLeast, less, atMost, differs, like, notLike, is, within, notWithin,
   between, notBetween]

/-- The symbol or keyword of an operator. -/
def symbol : MatchOp → String
  | equal => "="
  | notEqual => "!="
  | greater => ">"
  | atLeast => ">="
  | less => "<"
  | atMost => "<="
  | differs => "<>"
  | like => "LIKE"
  | notLike => "NOT LIKE"
  | is => "IS"
  | within => "IN"
  | notWithin => "NOT IN"
  | between => "BETWEEN"
  | notBetween => "NOT BETWEEN"

/-- The operator of a symbol that is spelled as `symbol` spells it. -/
def ofSymbol? (s : String) : Option MatchOp :=
  all.find? fun op => op.symbol == s

/-- The shape of what an operator takes. -/
def shape : MatchOp → OperandShape
  | within | notWithin => .set
  | between | notBetween => .range
  | _ => .scalar

theorem mem_all (op : MatchOp) : op ∈ all := by
  cases op <;> decide

theorem symbol_injective {a b : MatchOp} (h : a.symbol = b.symbol) : a = b := by
  revert h
  cases a <;> cases b <;> decide

theorem ofSymbol?_eq_some_iff {s : String} {op : MatchOp} :
    ofSymbol? s = some op ↔ op.symbol = s := by
  constructor
  · intro found
    simpa using List.find?_some found
  · intro spelled
    cases found : ofSymbol? s with
    | none =>
      have absent := List.find?_eq_none.mp found op op.mem_all
      simp [spelled] at absent
    | some other =>
      have same : other.symbol = s := by simpa using List.find?_some found
      rw [symbol_injective (same.trans spelled.symm)]

end MatchOp

end Clausal
