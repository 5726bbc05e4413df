import Clausal.MatchOp
import Clausal.Report.Table
import Clausal.Text.Case
/-!
The operators for a reader: each one with a key that uses it, and the predicate that it becomes.
-/

namespace Clausal.Report

/-- The word of an operator as keys are mostly written. -/
def keyword (op : MatchOp) : String :=
  String.ofList (Text.lower op.symbol.toList)

/-- A key with the operator, a value for it, and the predicate they become. -/
def usage (op : MatchOp) : String × String × String :=
  match op.shape with
  | .scalar =>
    if op = .is then ("deleted_at is", "null", "`deleted_at` IS NULL")
    else ("age " ++ keyword op, "18", "`age` " ++ op.symbol ++ " 18")
  | .set => ("id " ++ keyword op, "[1, 2]", "`id` " ++ op.symbol ++ " (1, 2)")
  | .range => ("age " ++ keyword op, "[18, 30]", "`age` " ++ op.symbol ++ " 18 AND 30")

/-- Three cells in one line. -/
def operatorLine (symbol key sql : String) : String :=
  padded 14 symbol ++ " " ++ padded 34 key ++ " " ++ sql

/-- One operator. -/
def operator (op : MatchOp) : String :=
  let (key, value, sql) := usage op
  operatorLine op.symbol ("\"" ++ key ++ "\": " ++ value) sql

/-- All operators under a title. -/
def operators (title : String) : List String :=
  [title, "", operatorLine "Operator" "Key example" "SQL",
    String.ofList (List.replicate 80 '─')] ++ MatchOp.all.map operator ++
  ["", "Keys \"AND\" / \"OR\" nest a group; a bare string is raw SQL."]

end Clausal.Report
