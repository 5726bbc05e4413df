import Clausal.Proofs.Condition.Comparison
import Mathlib.Data.List.Induction
/-!
# Hooks as substitution

Hooks run in the middle of compiling, after a key has been read and before its operator looks at the
value. Yet they do nothing that could not be done beforehand: compiling with hooks is compiling
without any, once each value of the tree has been replaced by what the hook of its field makes of
it. The hook of a field is the one that was registered for it last. All that is not a value stays
what it is, so with hooks and without them a predicate has the same form.
-/

namespace Clausal

/-! ## The last registration -/

namespace Hooks

/-- The hooks that are registered by several calls, one after another. -/
def ofList (registrations : List (String × (SqlValue → SqlValue))) : Hooks :=
  registrations.foldl (fun hooks (field, hook) => hooks.register field hook) .empty

/-- What the hook that was registered last for a field makes of a value. A field for which none was
registered keeps its value. -/
def last (registrations : List (String × (SqlValue → SqlValue))) (field : String)
    (value : SqlValue) : SqlValue :=
  match registrations.reverse.find? (·.1 == field) with
  | some (_, hook) => hook value
  | none => value

theorem find?_ofList (registrations : List (String × (SqlValue → SqlValue))) (field : String) :
    (ofList registrations).find? field =
      (registrations.reverse.find? (·.1 == field)).map Prod.snd := by
  induction registrations using List.reverseRecOn with
  | nil => rfl
  | append_singleton before registration ih =>
    have step : ofList (before ++ [registration]) =
        (ofList before).register registration.1 registration.2 := by
      rw [ofList, List.foldl_append]
      rfl
    rw [step, find?_register, ih, List.reverse_append, List.reverse_singleton,
      List.singleton_append, List.find?_cons]
    by_cases same : registration.1 = field
    · rw [if_pos same, beq_iff_eq.mpr same]
      rfl
    · rw [if_neg same, beq_eq_false_iff_ne.mpr same]

theorem apply_ofList (registrations : List (String × (SqlValue → SqlValue))) :
    (ofList registrations).apply = last registrations := by
  funext field value
  rw [apply, find?_ofList, last]
  cases registrations.reverse.find? (·.1 == field) <;> rfl

end Hooks

/-! ## Substitution -/

namespace Condition

mutual

/-- A tree with each of its values replaced. A value stands under a key that names no connective and
is a field key; the field decides what takes the place of the value. -/
def overridden (override : String → SqlValue → SqlValue) : Condition → Condition
  | .raw sql => .raw sql
  | .sequence members => .sequence (overriddenMembers override members)
  | .fields entries => .fields (overriddenEntries override entries)
  | .group own members => .group own (overriddenMembers override members)

def overriddenMembers (override : String → SqlValue → SqlValue) : List Condition → List Condition
  | [] => []
  | member :: rest => overridden override member :: overriddenMembers override rest

def overriddenEntries (override : String → SqlValue → SqlValue) : List Entry → List Entry
  | [] => []
  | entry :: rest => overriddenEntry override entry :: overriddenEntries override rest

def overriddenEntry (override : String → SqlValue → SqlValue) : Entry → Entry
  | .value key value =>
    match Logic.ofKey? key, FieldKey.read key with
    | none, .ok parsed => .value key (override parsed.field value)
    | _, _ => .value key value
  | .nested key condition => .nested key (overridden override condition)

end

theorem isRaw_overridden (override : String → SqlValue → SqlValue) (c : Condition) :
    (c.overridden override).isRaw = c.isRaw := by
  cases c <;> rfl

theorem isDelimited_overridden (override : String → SqlValue → SqlValue) (c : Condition) :
    (c.overridden override).isDelimited = c.isDelimited := by
  cases c <;> rfl

mutual

/-- What hooks do while a tree is compiled can be done before. -/
theorem compile_overridden (hooks : Hooks) (mode : Mode) (logic : Logic) (c : Condition) :
    (c.overridden hooks.apply).compile ⟨.empty, mode⟩ logic = c.compile ⟨hooks, mode⟩ logic := by
  match c with
  | .raw sql => rfl
  | .sequence members =>
    rw [overridden, compile, compile, compileMembers_overridden hooks mode logic members]
  | .fields entries =>
    rw [overridden, compile, compile, compileEntries_overridden hooks mode entries]
  | .group own members =>
    rw [overridden, compile, compile, compileMembers_overridden hooks mode own members]

theorem compileMembers_overridden (hooks : Hooks) (mode : Mode) (logic : Logic)
    (members : List Condition) :
    compileMembers ⟨.empty, mode⟩ logic (overriddenMembers hooks.apply members) =
      compileMembers ⟨hooks, mode⟩ logic members := by
  match members with
  | [] => rfl
  | member :: rest =>
    rw [overriddenMembers, compileMembers, compileMembers, isRaw_overridden,
      compile_overridden hooks mode logic member, compileMembers_overridden hooks mode logic rest]

theorem compileEntries_overridden (hooks : Hooks) (mode : Mode) (entries : List Entry) :
    compileEntries ⟨.empty, mode⟩ (overriddenEntries hooks.apply entries) =
      compileEntries ⟨hooks, mode⟩ entries := by
  match entries with
  | [] => rfl
  | entry :: rest =>
    rw [overriddenEntries, compileEntries, compileEntries,
      compileEntry_overridden hooks mode entry, compileEntries_overridden hooks mode rest]

theorem compileEntry_overridden (hooks : Hooks) (mode : Mode) (entry : Entry) :
    compileEntry ⟨.empty, mode⟩ (overriddenEntry hooks.apply entry) =
      compileEntry ⟨hooks, mode⟩ entry := by
  match entry with
  | .value key value =>
    rw [overriddenEntry]
    cases under : Logic.ofKey? key with
    | some logic => simp only [compileEntry, under]
    | none =>
      cases read : FieldKey.read key with
      | error e => simp only [compileEntry, under, read, bind, Except.bind]
      | ok parsed =>
        simp only [compileEntry, under, read, bind, Except.bind]
        rfl
  | .nested key condition =>
    rw [overriddenEntry, compileEntry, compileEntry, isDelimited_overridden]
    cases Logic.ofKey? key with
    | none => rfl
    | some logic => simp only [compile_overridden hooks mode logic condition]

end

end Condition

/-! ## Predicates of one form -/

/-- Predicates of one form have the same raw texts, the same fields with the same operators, and the
same connectives and parentheses between them. Only the values that are compared with may differ. -/
inductive SameForm (mode : Mode) : List Leaf → Fragment → Fragment → Prop
  | nothing : SameForm mode [] {} {}
  | raw (sql : String) :
    SameForm mode [.raw sql] (.ofText (Text.trimmed sql)) (.ofText (Text.trimmed sql))
  | comparison {key : String} {value : SqlValue} {parsed : FieldKey}
    {values values' : List SqlValue} : FieldKey.read key = .ok parsed →
    SameForm mode [.comparison key value] (Comparison.fragment mode ⟨parsed, values⟩)
      (Comparison.fragment mode ⟨parsed, values'⟩)
  | parenthesized {leaves : List Leaf} {f g : Fragment} : SameForm mode leaves f g →
    SameForm mode leaves f.parenthesized g.parenthesized
  | link {first others : List Leaf} {f f' g g' : Fragment} (logic : Logic) :
    SameForm mode first f g → SameForm mode others f' g' →
    SameForm mode (first ++ others) (.link logic f f') (.link logic g g')

/-- Fragments of one form, each with its share of the leaves. -/
inductive SameForms (mode : Mode) : List Leaf → List Fragment → List Fragment → Prop
  | nil : SameForms mode [] [] []
  | cons {leaves others : List Leaf} {f g : Fragment} {fs gs : List Fragment} :
    SameForm mode leaves f g → SameForms mode others fs gs →
    SameForms mode (leaves ++ others) (f :: fs) (g :: gs)

/-- Members of one form. They are raw text in the same places. -/
inductive SameMembers (mode : Mode) : List Leaf → List Member → List Member → Prop
  | nil : SameMembers mode [] [] []
  | cons {leaves others : List Leaf} {f g : Fragment} {ms ns : List Member} (raw : Bool) :
    SameForm mode leaves f g → SameMembers mode others ms ns →
    SameMembers mode (leaves ++ others) (⟨raw, f⟩ :: ms) (⟨raw, g⟩ :: ns)

variable {mode : Mode} {leaves : List Leaf}

theorem SameForm.isEmpty_eq {f g : Fragment} (same : SameForm mode leaves f g) :
    f.isEmpty = g.isEmpty := by
  induction same with
  | nothing => rfl
  | raw sql => rfl
  | @comparison key value parsed values values' _ =>
    have full (values : List SqlValue) :
        (Comparison.fragment mode ⟨parsed, values⟩).isEmpty = false := by
      simp [Comparison.fragment, Fragment.isEmpty, FieldKey.opening]
    rw [full, full]
  | parenthesized _ ih => rw [Fragment.isEmpty_parenthesized, Fragment.isEmpty_parenthesized, ih]
  | link logic _ _ first second => rw [Fragment.isEmpty_link, Fragment.isEmpty_link, first, second]

theorem SameForm.guarded {f g : Fragment} (raw crowded : Bool) (same : SameForm mode leaves f g) :
    SameForm mode leaves (Member.guarded crowded ⟨raw, f⟩) (Member.guarded crowded ⟨raw, g⟩) := by
  unfold Member.guarded
  split
  · exact .parenthesized same
  · exact same

theorem SameForms.join {fs gs : List Fragment} (logic : Logic) (same : SameForms mode leaves fs gs) :
    SameForm mode leaves (Fragment.join logic fs) (Fragment.join logic gs) := by
  induction same with
  | nil => exact .nothing
  | cons first _ rest =>
    rw [Fragment.join_cons, Fragment.join_cons]
    exact .link logic first rest

namespace SameMembers

variable {ms ns : List Member}

theorem guarded (crowded : Bool) (same : SameMembers mode leaves ms ns) :
    SameForms mode leaves (ms.map (Member.guarded crowded)) (ns.map (Member.guarded crowded)) := by
  induction same with
  | nil => exact .nil
  | cons raw first _ rest => exact .cons (first.guarded raw crowded) rest

theorem areCrowded_eq (same : SameMembers mode leaves ms ns) :
    Member.areCrowded ms = Member.areCrowded ns := by
  have counts : (ms.filter (!·.fragment.isEmpty)).length =
      (ns.filter (!·.fragment.isEmpty)).length := by
    induction same with
    | nil => rfl
    | cons raw first _ rest =>
      rw [List.filter_cons, List.filter_cons, first.isEmpty_eq]
      split
      · rw [List.length_cons, List.length_cons, rest]
      · exact rest
  unfold Member.areCrowded
  rw [counts]

theorem join (logic : Logic) (same : SameMembers mode leaves ms ns) :
    SameForm mode leaves (Member.join logic ms) (Member.join logic ns) := by
  rw [Member.join_eq, Member.join_eq, same.areCrowded_eq]
  exact .parenthesized ((same.guarded _).join logic)

end SameMembers

namespace Condition

mutual

/-- Hooks decide whether a tree compiles, but not which form it gets. -/
theorem sameForm_compile (hooks hooks' : Hooks) (mode : Mode) (logic : Logic) (c : Condition) :
    Agree (SameForm mode c.leaves) (c.compile ⟨hooks, mode⟩ logic)
      (c.compile ⟨hooks', mode⟩ logic) := by
  match c with
  | .raw sql => exact .ok (.raw sql)
  | .sequence members =>
    rw [leaves, compile, compile]
    exact (sameMembers_compile hooks hooks' mode logic members).map fun _ _ same => same.join logic
  | .fields entries =>
    rw [leaves, compile, compile]
    exact (sameForms_compile hooks hooks' mode entries).map fun _ _ same => same.join logic
  | .group own members =>
    rw [leaves, compile, compile]
    exact (sameMembers_compile hooks hooks' mode own members).map fun _ _ same => same.join own

theorem sameMembers_compile (hooks hooks' : Hooks) (mode : Mode) (logic : Logic)
    (members : List Condition) : Agree (SameMembers mode (memberLeaves members))
      (compileMembers ⟨hooks, mode⟩ logic members)
      (compileMembers ⟨hooks', mode⟩ logic members) := by
  match members with
  | [] => exact .ok .nil
  | member :: rest =>
    rw [memberLeaves, compileMembers, compileMembers]
    refine (sameForm_compile hooks hooks' mode logic member).bind fun f g first => ?_
    refine (sameMembers_compile hooks hooks' mode logic rest).bind fun ms ns others => ?_
    exact .ok (.cons member.isRaw first others)

theorem sameForms_compile (hooks hooks' : Hooks) (mode : Mode) (entries : List Entry) :
    Agree (SameForms mode (entryLeaves entries)) (compileEntries ⟨hooks, mode⟩ entries)
      (compileEntries ⟨hooks', mode⟩ entries) := by
  match entries with
  | [] => exact .ok .nil
  | entry :: rest =>
    rw [entryLeaves, compileEntries, compileEntries]
    refine (sameForm_compileEntry hooks hooks' mode entry).bind fun f g first => ?_
    refine (sameForms_compile hooks hooks' mode rest).bind fun fs gs others => ?_
    exact .ok (.cons first others)

theorem sameForm_compileEntry (hooks hooks' : Hooks) (mode : Mode) (entry : Entry) :
    Agree (SameForm mode (leavesOfEntry entry)) (compileEntry ⟨hooks, mode⟩ entry)
      (compileEntry ⟨hooks', mode⟩ entry) := by
  match entry with
  | .value key value =>
    rw [leavesOfEntry]
    unfold Leaf.ofValue compileEntry
    cases Logic.ofKey? key with
    | some logic =>
      cases value with
      | text sql => exact .ok (.parenthesized (.raw sql))
      | _ => exact .error_left _
    | none =>
      cases read : FieldKey.read key with
      | error e => exact .error_left _
      | ok parsed =>
        intro f g first second
        obtain ⟨values, -, rfl⟩ := FieldKey.clause_eq_ok_iff.mp first
        obtain ⟨values', -, rfl⟩ := FieldKey.clause_eq_ok_iff.mp second
        exact .comparison read
  | .nested key condition =>
    rw [leavesOfEntry, compileEntry, compileEntry]
    cases Logic.ofKey? key with
    | some logic =>
      refine (sameForm_compile hooks hooks' mode logic condition).map fun f g same => ?_
      cases condition.isDelimited with
      | true => exact same
      | false => exact .parenthesized same
    | none => cases FieldKey.read key <;> exact .error_left _

end

/-! ## Hooks -/

/-- Hooks are a substitution on values. Whatever has been registered, a tree becomes with hooks what
it becomes without them after each value has been replaced by what the last hook of its field makes
of it: the same text with the same values, or the same error. Where a tree compiles with and without
hooks, it gets the same form both times. -/
theorem hooks_substitute (registrations : List (String × (SqlValue → SqlValue))) (mode : Mode)
    (logic : Logic) (c : Condition) :
    c.compile ⟨.ofList registrations, mode⟩ logic =
        (c.overridden (Hooks.last registrations)).compile ⟨.empty, mode⟩ logic ∧
      ∀ f g, c.compile ⟨.ofList registrations, mode⟩ logic = .ok f →
        c.compile ⟨.empty, mode⟩ logic = .ok g → SameForm mode c.leaves f g := by
  constructor
  · rw [← Hooks.apply_ofList]
    exact (compile_overridden (.ofList registrations) mode logic c).symm
  · exact sameForm_compile (.ofList registrations) .empty mode logic c

/-- Of two hooks for one field the later counts, and a list that it makes longer stays in its
place. -/
theorem hooks_substitute_group :
    (group .or [.raw "a = 1", field "`id` in" (.list [.null])]).compile
        ⟨.ofList [("id", fun _ => .null), ("id", fun _ => .list [.int 7, .text "x"])],
          .parameterized⟩ .and =
        .ok ⟨"((a = 1) OR `id` IN (?, ?))", [.int 7, .text "x"]⟩ ∧
      (group .or [.raw "a = 1", field "`id` in" (.list [.null])]).compile
        ⟨.empty, .parameterized⟩ .and = .ok ⟨"((a = 1) OR `id` IN (?))", [.null]⟩ ∧
      SameForm .parameterized (group .or [.raw "a = 1", field "`id` in" (.list [.null])]).leaves
        ⟨"((a = 1) OR `id` IN (?, ?))", [.int 7, .text "x"]⟩
        ⟨"((a = 1) OR `id` IN (?))", [.null]⟩ := by
  obtain ⟨substituted, same⟩ := hooks_substitute
    [("id", fun _ => .null), ("id", fun _ => .list [.int 7, .text "x"])] .parameterized .and
    (group .or [.raw "a = 1", field "`id` in" (.list [.null])])
  exact ⟨substituted.trans (by rfl), by rfl, same _ _ (substituted.trans (by rfl)) (by rfl)⟩

end Condition

end Clausal
