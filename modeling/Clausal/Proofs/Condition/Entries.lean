import Clausal.Proofs.Condition.Comparison
/-!
# The entries of a condition

A tree is read here as the list of its entries, from left to right: an entry that nests a condition
under a connective gives way to the entries of that condition. Whether a tree compiles, which error
it fails with and what it binds is decided by this list alone, entry by entry. Raw texts,
connectives and the grouping of the tree have no part in it.
-/

namespace Clausal

/-! ## Entries from left to right -/

namespace Condition

mutual

/-- The entries of a tree. -/
def entries : Condition → List Entry
  | .raw _ => []
  | .sequence members => memberEntries members
  | .fields own => nestedEntries own
  | .group _ members => memberEntries members

/-- The entries of several members. -/
def memberEntries : List Condition → List Entry
  | [] => []
  | member :: rest => entries member ++ memberEntries rest

/-- Several entries, with those of the conditions that they nest. -/
def nestedEntries : List Entry → List Entry
  | [] => []
  | entry :: rest => entriesOfEntry entry ++ nestedEntries rest

/-- An entry, or the entries of the condition that it nests under a connective. -/
def entriesOfEntry : Entry → List Entry
  | .value key value => [.value key value]
  | .nested key condition =>
    match Logic.ofKey? key with
    | some _ => entries condition
    | none => [.nested key condition]

end

end Condition

/-! ## The check of an entry -/

/-- Whether a value is what an operator takes: a list that is not empty, a list of two values, or
just any value. -/
def MatchOp.Takes (op : MatchOp) (value : SqlValue) : Prop :=
  match op.shape with
  | .scalar => True
  | .set => ∃ first rest, value = .list (first :: rest)
  | .range => ∃ low high, value = .list [low, high]

namespace Entry

/-- Whether an entry can stand in a tree: text under a connective, and under any other key a value,
where the key is a field key and its operator takes the value that the hook of the field makes of
it. -/
def Passes (hooks : Hooks) : Entry → Prop
  | .value key v =>
    match Logic.ofKey? key with
    | some _ => ∃ sql, v = .text sql
    | none => ∃ parsed, FieldKey.read key = .ok parsed ∧
      parsed.op.Takes (hooks.apply parsed.field v)
  | .nested _ _ => False

/-- The check of an entry on its own, which tells what is wrong with it. -/
def check (hooks : Hooks) : Entry → Except Error Unit
  | .value key v =>
    match Logic.ofKey? key with
    | some _ =>
      match v with
      | .text _ => .ok ()
      | other => .error (.unsupportedShape
          (other.kind ++ " value under logic key '" ++ Text.trimmed key ++ "'"))
    | none => do
      let parsed ← FieldKey.read key
      let _ ← parsed.op.operands (hooks.apply parsed.field v)
      return ()
  | .nested key _ => do
    let parsed ← FieldKey.read key
    .error (.unsupportedShape ("nested condition under field '" ++ parsed.field ++ "'"))

end Entry

theorem MatchOp.exists_operands_eq_ok_iff {op : MatchOp} {value : SqlValue} :
    (∃ values, op.operands value = .ok values) ↔ op.Takes value := by
  unfold operands Takes
  cases op.shape with
  | scalar => simp
  | set =>
    simp only [bind_eq_ok_iff]
    constructor
    · rintro ⟨values, items, given, taken⟩
      cases items with
      | nil => cases taken
      | cons first rest =>
        cases value <;> cases given
        exact ⟨first, rest, rfl⟩
    · rintro ⟨first, rest, rfl⟩
      exact ⟨first :: rest, first :: rest, rfl, rfl⟩
  | range =>
    simp only [bind_eq_ok_iff]
    constructor
    · rintro ⟨values, items, given, taken⟩
      match items with
      | [] => cases taken
      | [_] => cases taken
      | [low, high] =>
        cases value <;> cases given
        exact ⟨low, high, rfl⟩
      | _ :: _ :: _ :: _ => cases taken
    · rintro ⟨low, high, rfl⟩
      exact ⟨[low, high], [low, high], rfl, rfl⟩

namespace Entry

/-- The check finds fault with exactly the entries that cannot stand in a tree. -/
theorem exists_check_eq_ok_iff {hooks : Hooks} {entry : Entry} :
    (∃ u, entry.check hooks = .ok u) ↔ entry.Passes hooks := by
  cases entry with
  | value key v =>
    simp only [check, Passes]
    cases Logic.ofKey? key with
    | some logic => cases v <;> simp
    | none =>
      simp only [bind_eq_ok_iff, ← MatchOp.exists_operands_eq_ok_iff]
      constructor
      · rintro ⟨_, parsed, read, values, taken, -⟩
        exact ⟨parsed, read, values, taken⟩
      · rintro ⟨parsed, read, values, taken⟩
        exact ⟨(), parsed, read, values, taken, rfl⟩
  | nested key condition =>
    simp only [check, Passes, bind_eq_ok_iff, iff_false]
    rintro ⟨u, parsed, -, failed⟩
    cases failed

end Entry

/-! ## What an entry binds -/

/-- What an operator binds of its value: IS binds nothing, an operator of one value binds the value,
and one that takes a list binds the items of the list. -/
def MatchOp.params (op : MatchOp) (value : SqlValue) : List SqlValue :=
  match op.shape, value with
  | .scalar, value => if op = is then [] else [value.param]
  | _, .list items => items.map SqlValue.param
  | _, _ => []

/-- What an entry binds: under a connective nothing, under a field what the operator binds of the
value that the hook of the field makes. -/
def Entry.params (hooks : Hooks) : Entry → List SqlValue
  | .value key v =>
    match Logic.ofKey? key, FieldKey.read key with
    | none, .ok parsed => parsed.op.params (hooks.apply parsed.field v)
    | _, _ => []
  | .nested _ _ => []

/-- What is bound of given values in a mode. -/
def Mode.bound : Mode → List SqlValue → List SqlValue
  | .inline, _ => []
  | .parameterized, values => values

theorem Mode.bound_append (mode : Mode) (a b : List SqlValue) :
    mode.bound (a ++ b) = mode.bound a ++ mode.bound b := by
  cases mode <;> rfl

theorem Mode.bound_nil (mode : Mode) : mode.bound [] = [] := by
  cases mode <;> rfl

theorem MatchOp.params_of_operands {op : MatchOp} {value : SqlValue} {items : List SqlValue}
    (taken : op.operands value = .ok items) :
    op.params value = if op = is then [] else items.map SqlValue.param := by
  unfold operands at taken
  unfold params
  cases shape : op.shape with
  | scalar =>
    rw [shape] at taken
    cases taken
    rfl
  | set =>
    have bound : op ≠ is := by
      rintro rfl
      cases shape
    rw [shape] at taken
    obtain ⟨given, listed, counted⟩ := bind_eq_ok_iff.mp taken
    cases value <;> cases listed
    rw [if_neg bound]
    cases given <;> cases counted
    rfl
  | range =>
    have bound : op ≠ is := by
      rintro rfl
      cases shape
    rw [shape] at taken
    obtain ⟨given, listed, counted⟩ := bind_eq_ok_iff.mp taken
    cases value <;> cases listed
    rw [if_neg bound]
    match given with
    | [] => cases counted
    | [_] => cases counted
    | [low, high] =>
      cases counted
      rfl
    | _ :: _ :: _ :: _ => cases counted

theorem Comparison.params_eq_bound (mode : Mode) (m : Comparison) : (m.fragment mode).params =
    mode.bound (if m.key.op = .is then [] else m.values.map SqlValue.param) := by
  rw [params_fragment, Comparison.mode, MatchOp.modeOf]
  cases mode with
  | inline => split <;> simp [Fragment.ofValue, Mode.bound]
  | parameterized => split <;> simp [Fragment.ofValue, Mode.bound, List.map_eq_flatMap]

/-! ## What a woven fragment binds -/

theorem Fragment.params_parenthesized (f : Fragment) : f.parenthesized.params = f.params := by
  unfold parenthesized
  split
  · rfl
  · simp

namespace Woven

/-- What is woven without text is nothing at all. -/
theorem eq_empty {fs : List Fragment} {f : Fragment} (woven : Woven fs f)
    (empty : f.isEmpty = true) : f = {} := by
  induction woven with
  | nothing => rfl
  | part traceless => exact traceless empty
  | parenthesized _ ih =>
    rw [Fragment.isEmpty_parenthesized] at empty
    rw [ih empty]
    rfl
  | link logic _ _ first second =>
    rw [Fragment.isEmpty_link, Bool.and_eq_true] at empty
    rw [first empty.1, second empty.2]
    rfl

/-- What is woven binds what its parts bind, in their order. -/
theorem params {fs : List Fragment} {f : Fragment} (woven : Woven fs f) :
    f.params = fs.flatMap Fragment.params := by
  induction woven with
  | nothing => rfl
  | part _ => simp
  | parenthesized _ ih => rwa [Fragment.params_parenthesized]
  | link logic left right first second =>
    rw [List.flatMap_append, ← first, ← second, Fragment.link]
    split
    next empty => simp [left.eq_empty empty]
    next =>
      split
      next empty => simp [right.eq_empty empty]
      next => simp

end Woven

/-! ## Leaves and entries -/

/-- The leaves fail as the entries do, and otherwise bind what the entries bind. -/
def Binds (r : Rendering) (listed : List Entry) (leaves : List Leaf) : Prop :=
  Tied (fun _ fs => fs.flatMap Fragment.params =
      r.mode.bound (listed.flatMap (Entry.params r.hooks)))
    (listed.mapM (Entry.check r.hooks)) (leaves.mapM (Leaf.fragment r))

namespace Binds

theorem nothing (r : Rendering) : Binds r [] [] :=
  .ok r.mode.bound_nil.symm

theorem raw (r : Rendering) (sql : String) : Binds r [] [.raw sql] :=
  .ok r.mode.bound_nil.symm

theorem append {r : Rendering} {first others : List Entry} {left right : List Leaf}
    (here : Binds r first left) (later : Binds r others right) :
    Binds r (first ++ others) (left ++ right) := by
  unfold Binds
  rw [List.mapM_append, List.mapM_append]
  refine Tied.bind here fun _ fs one => Tied.bind later fun _ gs two => .ok ?_
  rw [List.flatMap_append, List.flatMap_append, Mode.bound_append, one, two]

theorem single {r : Rendering} {entry : Entry} {leaf : Leaf}
    (tied : Tied (fun _ f => f.params = r.mode.bound (entry.params r.hooks))
      (entry.check r.hooks) (leaf.fragment r)) : Binds r [entry] [leaf] := by
  unfold Binds
  rw [List.mapM_cons, List.mapM_cons]
  refine tied.bind fun _ f same => .ok ?_
  simpa using same

/-- A value binds where its leaf does, under a connective as under a field. -/
theorem value (r : Rendering) (key : String) (v : SqlValue) :
    Binds r [.value key v] [.ofValue key v] := by
  refine single ?_
  simp only [Leaf.ofValue, Entry.check, Entry.params]
  cases Logic.ofKey? key with
  | some logic =>
    cases v with
    | text sql => exact .ok r.mode.bound_nil.symm
    | _ => exact .error _
  | none =>
    simp only [Leaf.fragment]
    cases FieldKey.read key with
    | error e => exact .error e
    | ok parsed =>
      simp only [FieldKey.clause_eq, bind, Except.bind]
      cases taken : parsed.op.operands (r.hooks.apply parsed.field v) with
      | error e => exact .error e
      | ok values =>
        refine .ok ?_
        rw [MatchOp.params_of_operands taken]
        exact Comparison.params_eq_bound r.mode ⟨parsed, values⟩

/-- A condition under a field is at fault. -/
theorem strayCondition (r : Rendering) (key : String) (c : Condition) :
    Binds r [.nested key c] [.strayCondition key] := by
  refine single ?_
  rw [Entry.check, Leaf.fragment]
  cases FieldKey.read key <;> exact .error _

end Binds

namespace Condition

mutual

theorem binds_leaves (r : Rendering) (c : Condition) : Binds r c.entries c.leaves := by
  match c with
  | .raw sql => exact .raw r sql
  | .sequence members => exact binds_memberLeaves r members
  | .fields own => exact binds_entryLeaves r own
  | .group _ members => exact binds_memberLeaves r members

theorem binds_memberLeaves (r : Rendering) (members : List Condition) :
    Binds r (memberEntries members) (memberLeaves members) := by
  match members with
  | [] => exact .nothing r
  | member :: rest => exact (binds_leaves r member).append (binds_memberLeaves r rest)

theorem binds_entryLeaves (r : Rendering) (own : List Entry) :
    Binds r (nestedEntries own) (entryLeaves own) := by
  match own with
  | [] => exact .nothing r
  | entry :: rest => exact (binds_leavesOfEntry r entry).append (binds_entryLeaves r rest)

theorem binds_leavesOfEntry (r : Rendering) (entry : Entry) :
    Binds r (entriesOfEntry entry) (leavesOfEntry entry) := by
  match entry with
  | .value key v => exact .value r key v
  | .nested key condition =>
    rw [entriesOfEntry, leavesOfEntry]
    cases Logic.ofKey? key with
    | some logic => exact binds_leaves r condition
    | none => exact .strayCondition r key condition

end

/-- A tree fails as its entries do, and otherwise binds what they bind, from left to right. -/
theorem binds_compile (r : Rendering) (logic : Logic) (c : Condition) :
    Tied (fun _ f => f.params = r.mode.bound (c.entries.flatMap (Entry.params r.hooks)))
      (c.entries.mapM (Entry.check r.hooks)) (c.compile r logic) := by
  refine (binds_leaves r c).trans (weaves_compile r logic c) fun _ fs f binds woven => ?_
  exact woven.params.trans binds

/-! ## The list decides -/

/-- A tree compiles exactly when each of its entries passes its own check, and otherwise fails with
the error of the first that does not. With parameters it binds what its entries bind, from left to
right. So trees with the same entries fail alike or bind alike, whatever their connectives, their
raw texts and their grouping are. -/
theorem compile_follows_entries (hooks : Hooks) (mode : Mode) (logic : Logic) (c : Condition) :
    ((∃ f, c.compile ⟨hooks, mode⟩ logic = .ok f) ↔ ∀ entry ∈ c.entries, entry.Passes hooks) ∧
      (∀ e, c.compile ⟨hooks, mode⟩ logic = .error e ↔ ∃ before entry after,
        c.entries = before ++ entry :: after ∧ (∀ earlier ∈ before, earlier.Passes hooks) ∧
          entry.check hooks = .error e) ∧
      (∀ f, c.compile ⟨hooks, mode⟩ logic = .ok f →
        f.params = mode.bound (c.entries.flatMap (Entry.params hooks))) ∧
      ∀ (other : Condition) (logic' : Logic), other.entries = c.entries →
        Tied (fun f g => f.params = g.params) (c.compile ⟨hooks, mode⟩ logic)
          (other.compile ⟨hooks, mode⟩ logic') := by
  have tied := binds_compile ⟨hooks, mode⟩ logic c
  simp only [← Entry.exists_check_eq_ok_iff]
  refine ⟨?_, fun e => ?_, fun f compiled => ?_, fun other logic' same => ?_⟩
  · exact tied.exists_ok_iff.symm.trans exists_mapM_eq_ok_iff
  · exact (tied.error_iff e).symm.trans mapM_eq_error_iff
  · obtain ⟨-, -, bound⟩ := tied.exists_of_eq_ok compiled
    exact bound
  · have tied' := binds_compile ⟨hooks, mode⟩ logic' other
    rw [same] at tied'
    exact tied.symm.trans tied' fun f _ g first second => first.trans second.symm

/-- Raw text is passed over, and the values under a connective come in their place. -/
theorem compile_follows_entries_nested :
    ∃ f, (sequence [.raw "x = 1", .fields
        [.nested "or" (.field "a in" (.list [.int 1, .bool true])), .value "b is" .null,
          .value "c" (.text "it's")]]).compile ⟨.empty, .parameterized⟩ .and = .ok f ∧
      f.sql = "((x = 1) AND (`a` IN (?, ?)) AND `b` IS NULL AND `c` = ?)" ∧
      f.params = [.int 1, .int 1, .text "it's"] := by
  obtain ⟨-, -, params, -⟩ := compile_follows_entries .empty .parameterized .and
    (sequence [.raw "x = 1", .fields
      [.nested "or" (.field "a in" (.list [.int 1, .bool true])), .value "b is" .null,
        .value "c" (.text "it's")]])
  exact ⟨_, rfl, rfl, params _ rfl⟩

end Condition

end Clausal
