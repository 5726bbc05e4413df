import Clausal.Proofs.Condition.Leaf
import Clausal.Proofs.Template.Placeholder
import Clausal.Proofs.Text.Identifier
/-!
# Both modes of a condition

A tree becomes a template first: `Condition.template` follows the compiler and leaves a slot
wherever a value is written as the mode says. Compiling in either mode is rendering that one
template, so both modes fail alike, and otherwise their texts differ at the slots only.
-/

namespace Clausal

/-! ## The template of a tree -/

namespace MatchOp

/-- A value of an operator. IS keeps the literal in the text. -/
def piece (op : MatchOp) (v : SqlValue) : Piece :=
  if op = is then .text v.literal else .slot v

def templateLayout (op : MatchOp) (parts : List Template) : Template :=
  match op.shape with
  | .set => .ofText "(" ++ Template.intercalate ", " parts ++ .ofText ")"
  | _ => Template.intercalate " AND " parts

end MatchOp

def FieldKey.template (key : FieldKey) (value : SqlValue) : Except Error Template :=
  (key.op.operands value).map fun items =>
    .ofText key.opening ++ key.op.templateLayout (items.map fun v => [key.op.piece v])

namespace Template

/-- Members joined with a connective, in parentheses; each comes with whether it is raw text, which
gets parentheses of its own beside siblings. -/
def joinMembers (logic : Logic) (members : List (Bool × Template)) : Template :=
  let kept := members.filter (!·.2.isEmpty)
  let parts := kept.map fun m => if m.1 && 1 < kept.length then m.2.parenthesized else m.2
  (join logic parts).parenthesized

end Template

namespace Condition

mutual

/-- The template of a tree under the hooks of its values. -/
def template (hooks : Hooks) (logic : Logic) : Condition → Except Error Template
  | .raw sql => .ok (.ofText (Text.trimmed sql))
  | .sequence members => do return .joinMembers logic (← templateMembers hooks logic members)
  | .fields entries => do return .join logic (← templateEntries hooks entries)
  | .group own members => do return .joinMembers own (← templateMembers hooks own members)

def templateMembers (hooks : Hooks) (logic : Logic) :
    List Condition → Except Error (List (Bool × Template))
  | [] => .ok []
  | member :: rest => do
    let t ← template hooks logic member
    return (member.isRaw, t) :: (← templateMembers hooks logic rest)

def templateEntries (hooks : Hooks) : List Entry → Except Error (List Template)
  | [] => .ok []
  | entry :: rest => do
    let t ← templateEntry hooks entry
    return t :: (← templateEntries hooks rest)

def templateEntry (hooks : Hooks) : Entry → Except Error Template
  | .value key value =>
    match Logic.ofKey? key with
    | some _ =>
      match value with
      | .text sql => .ok (Template.ofText (Text.trimmed sql)).parenthesized
      | other => .error (.unsupportedShape
          (other.kind ++ " value under logic key '" ++ Text.trimmed key ++ "'"))
    | none => do
      let parsed ← FieldKey.read key
      parsed.template (hooks.apply parsed.field value)
  | .nested key condition =>
    match Logic.ofKey? key with
    | some logic => do
      let t ← template hooks logic condition
      return if condition.isDelimited then t else t.parenthesized
    | none => do
      let parsed ← FieldKey.read key
      .error (.unsupportedShape ("nested condition under field '" ++ parsed.field ++ "'"))

end

end Condition

/-! ## Compiling is rendering -/

namespace MatchOp

theorem render_piece (op : MatchOp) (mode : Mode) (v : SqlValue) :
    Template.render mode [op.piece v] = .ofValue (op.modeOf mode) v := by
  unfold piece modeOf
  split
  · exact Template.render_ofText mode v.literal
  · exact Template.render_slot mode v

theorem render_templateLayout (op : MatchOp) (mode : Mode) (parts : List Template) :
    Template.render mode (op.templateLayout parts) =
      op.layout (parts.map (Template.render mode)) := by
  unfold templateLayout layout
  cases op.shape with
  | set =>
    rw [Template.render_append, Template.render_append, Template.render_ofText,
      Template.render_ofText, Template.render_intercalate]
  | scalar => exact Template.render_intercalate mode " AND " parts
  | range => exact Template.render_intercalate mode " AND " parts

end MatchOp

theorem FieldKey.clause_eq_render (key : FieldKey) (mode : Mode) (value : SqlValue) :
    key.clause mode value = (key.template value).map (Template.render mode) := by
  rw [clause_eq, template]
  cases key.op.operands value with
  | error e => rfl
  | ok items =>
    simp only [Except.map, Template.render_append, Template.render_ofText,
      MatchOp.render_templateLayout, List.map_map]
    congr 4
    funext v
    exact (MatchOp.render_piece key.op mode v).symm

/-- A rendered member. -/
def Member.ofTemplate (mode : Mode) (m : Bool × Template) : Member :=
  ⟨m.1, m.2.render mode⟩

theorem Template.render_joinMembers (mode : Mode) (logic : Logic)
    (members : List (Bool × Template)) : render mode (joinMembers logic members) =
      Member.join logic (members.map (Member.ofTemplate mode)) := by
  have kept : (members.map (Member.ofTemplate mode)).filter (!·.fragment.isEmpty) =
      (members.filter (!·.2.isEmpty)).map (Member.ofTemplate mode) := by
    rw [List.filter_map]
    congr 2
    funext m
    simp [Member.ofTemplate, isEmpty_render]
  unfold joinMembers Member.join
  simp only
  rw [render_parenthesized, render_join, kept, List.length_map, List.map_map, List.map_map]
  congr 3
  funext m
  rw [Function.comp_apply, apply_ite (render mode), render_parenthesized]
  rfl

namespace Condition

mutual

theorem compile_eq_render (hooks : Hooks) (mode : Mode) (logic : Logic) (c : Condition) :
    c.compile ⟨hooks, mode⟩ logic = (c.template hooks logic).map (Template.render mode) := by
  match c with
  | .raw sql =>
    rw [compile, template, Except.map, Template.render_ofText]
  | .sequence members =>
    rw [compile, template, compileMembers_eq_render hooks mode logic members]
    cases templateMembers hooks logic members with
    | error e => rfl
    | ok parts => exact congrArg Except.ok (Template.render_joinMembers mode logic parts).symm
  | .fields entries =>
    rw [compile, template, compileEntries_eq_render hooks mode entries]
    cases templateEntries hooks entries with
    | error e => rfl
    | ok parts => exact congrArg Except.ok (Template.render_join mode logic parts).symm
  | .group own members =>
    rw [compile, template, compileMembers_eq_render hooks mode own members]
    cases templateMembers hooks own members with
    | error e => rfl
    | ok parts => exact congrArg Except.ok (Template.render_joinMembers mode own parts).symm

theorem compileMembers_eq_render (hooks : Hooks) (mode : Mode) (logic : Logic)
    (members : List Condition) : compileMembers ⟨hooks, mode⟩ logic members =
      (templateMembers hooks logic members).map (List.map (Member.ofTemplate mode)) := by
  match members with
  | [] => rfl
  | member :: rest =>
    rw [compileMembers, templateMembers, compile_eq_render hooks mode logic member,
      compileMembers_eq_render hooks mode logic rest]
    cases template hooks logic member with
    | error e => rfl
    | ok t => cases templateMembers hooks logic rest <;> rfl

theorem compileEntries_eq_render (hooks : Hooks) (mode : Mode) (entries : List Entry) :
    compileEntries ⟨hooks, mode⟩ entries =
      (templateEntries hooks entries).map (List.map (Template.render mode)) := by
  match entries with
  | [] => rfl
  | entry :: rest =>
    rw [compileEntries, templateEntries, compileEntry_eq_render hooks mode entry,
      compileEntries_eq_render hooks mode rest]
    cases templateEntry hooks entry with
    | error e => rfl
    | ok t => cases templateEntries hooks rest <;> rfl

theorem compileEntry_eq_render (hooks : Hooks) (mode : Mode) (entry : Entry) :
    compileEntry ⟨hooks, mode⟩ entry =
      (templateEntry hooks entry).map (Template.render mode) := by
  match entry with
  | .value key value =>
    unfold compileEntry templateEntry
    cases Logic.ofKey? key with
    | none =>
      cases FieldKey.read key with
      | error e => rfl
      | ok parsed => exact parsed.clause_eq_render mode (hooks.apply parsed.field value)
    | some logic =>
      cases value with
      | text sql =>
        have rendered := Template.render_parenthesized mode (.ofText (Text.trimmed sql))
        rw [Template.render_ofText] at rendered
        exact congrArg Except.ok rendered.symm
      | _ => rfl
  | .nested key condition =>
    unfold compileEntry templateEntry
    cases Logic.ofKey? key with
    | none => cases FieldKey.read key <;> rfl
    | some logic =>
      simp only
      rw [compile_eq_render hooks mode logic condition]
      cases template hooks logic condition with
      | error e => rfl
      | ok t =>
        refine congrArg Except.ok ?_
        split
        · rfl
        · exact (Template.render_parenthesized mode t).symm

end

end Condition

/-! ## Trees without question marks of their own -/

/-- A leaf brings no question mark into the text: not as raw text, not in the name of a field, and
not in the value of IS, which stays in the text. -/
def Leaf.Unmarked (hooks : Hooks) : Leaf → Prop
  | .raw sql => '?' ∉ sql.toList
  | .comparison key value => ∀ parsed, FieldKey.read key = .ok parsed →
    '?' ∉ parsed.field.toList ∧
      (parsed.op = .is → '?' ∉ (hooks.apply parsed.field value).literal.toList)
  | .strayValue _ _ => True
  | .strayCondition _ => True

def Condition.Unmarked (hooks : Hooks) (c : Condition) : Prop :=
  ∀ leaf ∈ c.leaves, leaf.Unmarked hooks

/-- A comparison with a value that does not stay in the text. -/
theorem Condition.unmarked_field {hooks : Hooks} {key : String} (parsed : FieldKey)
    (value : SqlValue) (compares : Logic.ofKey? key = none) (read : FieldKey.read key = .ok parsed)
    (name : '?' ∉ parsed.field.toList) (written : parsed.op ≠ .is) :
    (field key value).Unmarked hooks := by
  intro leaf mem
  have single : (field key value).leaves = [.comparison key value] := by
    simp [field, leaves, entryLeaves, leavesOfEntry, Leaf.ofValue, compares]
  rw [single, List.mem_singleton] at mem
  subst mem
  intro parsed' read'
  obtain rfl := Except.ok.inj (read'.symm.trans read)
  exact ⟨name, fun same => absurd same written⟩

theorem FieldKey.unmarked_opening {key : FieldKey} (absent : '?' ∉ key.field.toList) :
    '?' ∉ key.opening.toList := by
  have name : '?' ∉ (Identifier.quote key.field).toList := by
    rw [Identifier.quote, String.toList_ofList]
    intro mem
    rcases Identifier.mem_quoteChars mem with dot | tick | inside
    · cases dot
    · cases tick
    · exact absent inside
  have symbol : '?' ∉ key.op.symbol.toList := by
    cases key.op <;> decide
  unfold opening
  simp [name, symbol]

theorem MatchOp.unmarked_templateLayout (op : MatchOp) {parts : List Template}
    (all : ∀ t ∈ parts, t.Unmarked) : (op.templateLayout parts).Unmarked := by
  unfold templateLayout
  cases op.shape with
  | set =>
    have items : (Template.intercalate ", " parts).Unmarked := .intercalate (by decide) all
    exact ((Template.unmarked_ofText (by decide)).append items).append
      (Template.unmarked_ofText (by decide))
  | scalar => exact .intercalate (by decide) all
  | range => exact .intercalate (by decide) all

/-- A value that is not written into the text brings no question mark along; the only operator that
writes its value into the text compares with that value alone. -/
theorem MatchOp.unmarked_piece {op : MatchOp} {value : SqlValue} {items : List SqlValue}
    (absent : op = .is → '?' ∉ value.literal.toList) (taken : op.operands value = .ok items)
    {v : SqlValue} (mem : v ∈ items) : Template.Unmarked [op.piece v] := by
  unfold piece
  split
  next same =>
    subst same
    cases taken
    rw [List.mem_singleton.mp mem]
    exact Template.unmarked_ofText (absent rfl)
  next => exact Template.unmarked_slot v

theorem FieldKey.unmarked_template {key : FieldKey} {value : SqlValue} {t : Template}
    (name : '?' ∉ key.field.toList) (absent : key.op = .is → '?' ∉ value.literal.toList)
    (made : key.template value = .ok t) : t.Unmarked := by
  unfold template at made
  cases taken : key.op.operands value with
  | error e =>
    rw [taken] at made
    cases made
  | ok items =>
    rw [taken] at made
    cases made
    refine (Template.unmarked_ofText (unmarked_opening name)).append ?_
    refine MatchOp.unmarked_templateLayout key.op fun t mem => ?_
    obtain ⟨v, memItems, rfl⟩ := List.mem_map.mp mem
    exact MatchOp.unmarked_piece absent taken memItems

theorem Leaf.unmarked_trimmed {sql : String} (absent : '?' ∉ sql.toList) :
    (Template.ofText (Text.trimmed sql)).Unmarked := by
  refine Template.unmarked_ofText fun mem => absent ?_
  rw [Text.trimmed, String.toList_ofList] at mem
  exact (Text.trim_infix sql.toList).mem mem

theorem Template.Unmarked.joinMembers {members : List (Bool × Template)} (logic : Logic)
    (all : ∀ m ∈ members, m.2.Unmarked) : (Template.joinMembers logic members).Unmarked := by
  refine (join logic fun t mem => ?_).parenthesized
  obtain ⟨m, memKept, rfl⟩ := List.mem_map.mp mem
  have unmarked := all m (List.mem_filter.mp memKept).1
  split
  · exact unmarked.parenthesized
  · exact unmarked

namespace Condition

mutual

theorem unmarked_template {hooks : Hooks} {logic : Logic} {c : Condition} {t : Template}
    (unmarked : ∀ leaf ∈ c.leaves, leaf.Unmarked hooks) (made : c.template hooks logic = .ok t) :
    t.Unmarked := by
  match c with
  | .raw sql =>
    cases made
    exact Leaf.unmarked_trimmed (unmarked (.raw sql) (List.mem_singleton.mpr rfl))
  | .sequence members =>
    rw [template] at made
    obtain ⟨parts, others, joined⟩ := bind_eq_ok_iff.mp made
    cases joined
    exact .joinMembers logic (unmarked_templateMembers unmarked others)
  | .fields entries =>
    rw [template] at made
    obtain ⟨parts, others, joined⟩ := bind_eq_ok_iff.mp made
    cases joined
    exact .join logic (unmarked_templateEntries unmarked others)
  | .group own members =>
    rw [template] at made
    obtain ⟨parts, others, joined⟩ := bind_eq_ok_iff.mp made
    cases joined
    exact .joinMembers own (unmarked_templateMembers unmarked others)

theorem unmarked_templateMembers {hooks : Hooks} {logic : Logic} {members : List Condition}
    {parts : List (Bool × Template)} (unmarked : ∀ leaf ∈ memberLeaves members, leaf.Unmarked hooks)
    (made : templateMembers hooks logic members = .ok parts) : ∀ m ∈ parts, m.2.Unmarked := by
  match members with
  | [] =>
    cases made
    simp
  | member :: rest =>
    rw [memberLeaves, List.forall_mem_append] at unmarked
    rw [templateMembers] at made
    obtain ⟨t, first, made⟩ := bind_eq_ok_iff.mp made
    obtain ⟨ts, others, joined⟩ := bind_eq_ok_iff.mp made
    cases joined
    exact List.forall_mem_cons.mpr
      ⟨unmarked_template unmarked.1 first, unmarked_templateMembers unmarked.2 others⟩

theorem unmarked_templateEntries {hooks : Hooks} {entries : List Entry} {parts : List Template}
    (unmarked : ∀ leaf ∈ entryLeaves entries, leaf.Unmarked hooks)
    (made : templateEntries hooks entries = .ok parts) : ∀ t ∈ parts, t.Unmarked := by
  match entries with
  | [] =>
    cases made
    simp
  | entry :: rest =>
    rw [entryLeaves, List.forall_mem_append] at unmarked
    rw [templateEntries] at made
    obtain ⟨t, first, made⟩ := bind_eq_ok_iff.mp made
    obtain ⟨ts, others, joined⟩ := bind_eq_ok_iff.mp made
    cases joined
    exact List.forall_mem_cons.mpr
      ⟨unmarked_templateEntry unmarked.1 first, unmarked_templateEntries unmarked.2 others⟩

theorem unmarked_templateEntry {hooks : Hooks} {entry : Entry} {t : Template}
    (unmarked : ∀ leaf ∈ leavesOfEntry entry, leaf.Unmarked hooks)
    (made : templateEntry hooks entry = .ok t) : t.Unmarked := by
  match entry with
  | .value key value =>
    have here : (Leaf.ofValue key value).Unmarked hooks := unmarked _ (by simp [leavesOfEntry])
    unfold Leaf.ofValue at here
    unfold templateEntry at made
    cases connective : Logic.ofKey? key with
    | none =>
      simp only [connective] at here made
      obtain ⟨parsed, read, made⟩ := bind_eq_ok_iff.mp made
      obtain ⟨name, absent⟩ := here parsed read
      exact FieldKey.unmarked_template name absent made
    | some logic =>
      simp only [connective] at here made
      cases value with
      | text sql =>
        obtain rfl := Except.ok.inj made
        exact (Leaf.unmarked_trimmed here).parenthesized
      | _ => cases made
  | .nested key condition =>
    rw [leavesOfEntry] at unmarked
    unfold templateEntry at made
    cases connective : Logic.ofKey? key with
    | none =>
      simp only [connective] at made
      obtain ⟨parsed, -, failed⟩ := bind_eq_ok_iff.mp made
      cases failed
    | some logic =>
      simp only [connective] at unmarked made
      obtain ⟨inner, inside, joined⟩ := bind_eq_ok_iff.mp made
      cases joined
      have marks := unmarked_template unmarked inside
      split
      · exact marks
      · exact marks.parenthesized

end

/-! ## Both modes -/

/-- Both modes fail alike, or both write the template of the tree. Then nothing is bound inline, one
value is bound for each slot, the text with parameters has a placeholder in each slot, and filling
the slots from left to right with the literals of what is bound gives the inline text. In a tree
without question marks of its own, the question marks of the text are the slots. -/
theorem compile_inline_parameterized (hooks : Hooks) (logic : Logic) (c : Condition) :
    (∃ e, c.compile ⟨hooks, .inline⟩ logic = .error e ∧
      c.compile ⟨hooks, .parameterized⟩ logic = .error e) ∨
    ∃ t written bound, c.template hooks logic = .ok t ∧
      c.compile ⟨hooks, .inline⟩ logic = .ok written ∧
      c.compile ⟨hooks, .parameterized⟩ logic = .ok bound ∧
      written.params = [] ∧
      bound.params = t.values.map SqlValue.param ∧
      bound.params.length = t.values.length ∧
      bound.sql = t.fill (t.values.map fun _ => placeholder) ∧
      written.sql = t.fill (bound.params.map SqlValue.literal) ∧
      (c.Unmarked hooks →
        bound.sql.toList.count '?' = bound.params.length ∧
        Template.substitute bound.sql.toList (bound.params.map SqlValue.literal) =
          written.sql.toList) := by
  have inline := compile_eq_render hooks .inline logic c
  have parameterized := compile_eq_render hooks .parameterized logic c
  cases made : c.template hooks logic with
  | error e =>
    rw [made] at inline parameterized
    exact .inl ⟨e, inline, parameterized⟩
  | ok t =>
    rw [made] at inline parameterized
    have bound := t.params_render_parameterized
    have size : (t.render .parameterized).params.length = t.values.length := by
      rw [bound, List.length_map]
    refine .inr ⟨t, _, _, rfl, inline, parameterized, t.params_render_inline, bound, size,
      t.sql_render_parameterized, t.sql_render_inline, fun unmarked => ?_⟩
    have marks : t.Unmarked := unmarked_template unmarked made
    exact ⟨(Template.count_render marks).trans size.symm, Template.substitute_render marks⟩

/-- A comparison without question marks, where the marks of the text are the slots. -/
theorem compile_inline_parameterized_field :
    (field "id >" (.int 5)).Unmarked .empty ∧
      ∃ written bound, (field "id >" (.int 5)).compile ⟨.empty, .inline⟩ .and = .ok written ∧
        (field "id >" (.int 5)).compile ⟨.empty, .parameterized⟩ .and = .ok bound ∧
        bound.sql.toList.count '?' = bound.params.length ∧
        Template.substitute bound.sql.toList (bound.params.map SqlValue.literal) =
          written.sql.toList := by
  have unmarked : (field "id >" (.int 5)).Unmarked .empty := by
    intro leaf mem
    have single : (field "id >" (.int 5)).leaves = [.comparison "id >" (.int 5)] := by rfl
    rw [single, List.mem_singleton] at mem
    subst mem
    intro parsed read
    have key : FieldKey.read "id >" = .ok ⟨"id", .greater⟩ := by rfl
    rw [key] at read
    cases read
    exact ⟨by decide, by decide⟩
  refine ⟨unmarked, ?_⟩
  rcases compile_inline_parameterized .empty .and (field "id >" (.int 5)) with
    ⟨e, failed, -⟩ | ⟨t, written, bound, -, inline, parameterized, -, -, -, -, -, marks⟩
  · have made : (field "id >" (.int 5)).compile ⟨.empty, .inline⟩ .and =
        .ok ⟨"`id` > 5", []⟩ := by rfl
    rw [made] at failed
    cases failed
  · exact ⟨written, bound, inline, parameterized, marks unmarked⟩

end Condition

end Clausal
