import Clausal.Condition.Basic
import Clausal.FieldKey
import Clausal.Fragment
import Clausal.Hooks
/-!
Condition trees as predicate text. Members are joined with a connective and put in parentheses once;
raw text beside other members gets parentheses of its own, because it may hold connectives. Nodes
that become no text are left out wherever they stand.
-/

namespace Clausal

/-- How values of a condition are written: which hooks replace them and how they reach the text. -/
structure Rendering where
  hooks : Hooks := .empty
  mode : Mode := .inline

instance : Inhabited Rendering := ⟨{}⟩

/-! ## Comparisons -/

namespace MatchOp

/-- The mode for the value of an operator. IS takes keywords only, so its value is never bound. -/
def modeOf (op : MatchOp) (mode : Mode) : Mode :=
  if op = is then .inline else mode

/-- What stands after the symbol of an operator. -/
def operand (op : MatchOp) (mode : Mode) (value : SqlValue) : Except Error Fragment :=
  match op.shape with
  | .scalar => .ok (.ofValue (op.modeOf mode) value)
  | .set => do
    match ← value.items with
    | [] => .error (.operandCount op.symbol "at least 1" 0)
    | items =>
      return .ofText "(" ++ Fragment.intercalate ", " (items.map (.ofValue mode)) ++ .ofText ")"
  | .range => do
    match ← value.items with
    | [low, high] => return .ofValue mode low ++ .ofText " AND " ++ .ofValue mode high
    | items => .error (.operandCount op.symbol "exactly 2" items.length)

end MatchOp

/-- The comparison of a field with a value. -/
def FieldKey.clause (key : FieldKey) (mode : Mode) (value : SqlValue) : Except Error Fragment := do
  let operand ← key.op.operand mode value
  return .ofText (Identifier.quote key.field ++ " " ++ key.op.symbol ++ " ") ++ operand

/-! ## Members -/

/-- A member that has become text, and whether it was raw text before. -/
structure Member where
  isRaw : Bool
  fragment : Fragment

/-- Members joined with a connective, in parentheses. Raw text gets its own when it has siblings. -/
def Member.join (logic : Logic) (members : List Member) : Fragment :=
  let kept := members.filter (!·.fragment.isEmpty)
  let parts := kept.map fun m =>
    if m.isRaw && 1 < kept.length then m.fragment.parenthesized else m.fragment
  (Fragment.join logic parts).parenthesized

/-! ## Trees -/

/-- Raw text that stands under a connective as key. -/
def Fragment.rawUnder (sql : String) : Fragment :=
  (Fragment.ofText (Text.trimmed sql)).parenthesized

namespace Condition

mutual

/-- The predicate of a node, joined with the connective it takes from above. -/
def compile (r : Rendering) (logic : Logic) : Condition → Except Error Fragment
  | .raw sql => .ok (.ofText (Text.trimmed sql))
  | .sequence members => do return Member.join logic (← compileMembers r logic members)
  | .fields entries => do return Fragment.join logic (← compileEntries r entries)
  | .group own members => do return Member.join own (← compileMembers r own members)

/-- The predicates of several members. -/
def compileMembers (r : Rendering) (logic : Logic) : List Condition → Except Error (List Member)
  | [] => .ok []
  | member :: rest => do
    let fragment ← compile r logic member
    return ⟨member.isRaw, fragment⟩ :: (← compileMembers r logic rest)

/-- The predicates of several fields. -/
def compileEntries (r : Rendering) : List Entry → Except Error (List Fragment)
  | [] => .ok []
  | entry :: rest => do
    let fragment ← compileEntry r entry
    return fragment :: (← compileEntries r rest)

/-- The predicate of an entry. Under a connective stands a condition that is joined with it, or
text; under a field stands a value. -/
def compileEntry (r : Rendering) : Entry → Except Error Fragment
  | .value key value =>
    match Logic.ofKey? key with
    | some _ =>
      match value with
      | .text sql => .ok (.rawUnder sql)
      | other => .error (.unsupportedShape
          (other.kind ++ " value under logic key '" ++ Text.trimmed key ++ "'"))
    | none => do
      let parsed ← FieldKey.read key
      parsed.clause r.mode (r.hooks.apply parsed.field value)
  | .nested key condition =>
    match Logic.ofKey? key with
    | some logic => do
      let fragment ← compile r logic condition
      return if condition.isDelimited then fragment else fragment.parenthesized
    | none => do
      let parsed ← FieldKey.read key
      .error (.unsupportedShape ("nested condition under field '" ++ parsed.field ++ "'"))

end

/-- The predicate with literals in the text. -/
def inlineText (condition : Condition) (logic : Logic := .and) (hooks : Hooks := .empty) :
    Except Error String :=
  (·.sql) <$> condition.compile ⟨hooks, .inline⟩ logic

/-- The predicate with placeholders in the text. -/
def bound (condition : Condition) (logic : Logic := .and) (hooks : Hooks := .empty) :
    Except Error Fragment :=
  condition.compile ⟨hooks, .parameterized⟩ logic

end Condition

end Clausal
