import Clausal.Proofs.Condition.Operand
import Clausal.Proofs.Fragment
/-!
# The leaves of a condition

A tree is read here as the list of what stands at its ends, from left to right: raw texts,
comparisons, and entries that have no meaning. `Condition.weaves_compile` says once what compiling
a tree can do: it fails with the error of the first failing leaf, or else the leaves become
fragments and the predicate is `Woven` from them, that is, made of them alone with connectives and
parentheses in between.
-/

namespace Clausal

/-- What stands at the end of a branch of a tree. -/
inductive Leaf where
  | raw (sql : String)
  | comparison (key : String) (value : SqlValue)
  /-- A value that is no text, under a connective. -/
  | strayValue (key : String) (value : SqlValue)
  /-- A condition under a field. -/
  | strayCondition (key : String)

namespace Leaf

/-- The leaf of an entry with a value. -/
def ofValue (key : String) (value : SqlValue) : Leaf :=
  match Logic.ofKey? key with
  | none => .comparison key value
  | some _ =>
    match value with
    | .text sql => .raw sql
    | other => .strayValue key other

/-- What a leaf becomes on its own. -/
def fragment (r : Rendering) : Leaf → Except Error Fragment
  | .raw sql => .ok (.ofText (Text.trimmed sql))
  | .comparison key value => do
    let parsed ← FieldKey.read key
    parsed.clause r.mode (r.hooks.apply parsed.field value)
  | .strayValue key value => .error (.unsupportedShape
      (value.kind ++ " value under logic key '" ++ Text.trimmed key ++ "'"))
  | .strayCondition key => do
    let parsed ← FieldKey.read key
    .error (.unsupportedShape ("nested condition under field '" ++ parsed.field ++ "'"))

end Leaf

namespace Condition

mutual

/-- The leaves of a tree, from left to right. -/
def leaves : Condition → List Leaf
  | .raw sql => [.raw sql]
  | .sequence members => memberLeaves members
  | .fields entries => entryLeaves entries
  | .group _ members => memberLeaves members

/-- The leaves of several members. -/
def memberLeaves : List Condition → List Leaf
  | [] => []
  | member :: rest => leaves member ++ memberLeaves rest

/-- The leaves of several entries. -/
def entryLeaves : List Entry → List Leaf
  | [] => []
  | entry :: rest => leavesOfEntry entry ++ entryLeaves rest

/-- The leaves of an entry. A condition under a field is never looked into. -/
def leavesOfEntry : Entry → List Leaf
  | .value key value => [.ofValue key value]
  | .nested key condition =>
    match Logic.ofKey? key with
    | some _ => leaves condition
    | none => [.strayCondition key]

end

end Condition

/-! ## Members -/

namespace Member

/-- The fragment of a member as it is joined: raw text is guarded when it is crowded by siblings. -/
def guarded (crowded : Bool) (m : Member) : Fragment :=
  if m.isRaw && crowded then m.fragment.parenthesized else m.fragment

/-- Whether more than one member has text. -/
def areCrowded (members : List Member) : Bool :=
  1 < (members.filter (!·.fragment.isEmpty)).length

theorem isEmpty_guarded (crowded : Bool) (m : Member) :
    (m.guarded crowded).isEmpty = m.fragment.isEmpty := by
  unfold guarded
  split
  · exact Fragment.isEmpty_parenthesized m.fragment
  · rfl

theorem guarded_of_isEmpty {m : Member} (empty : m.fragment.isEmpty = true) (crowded : Bool) :
    m.guarded crowded = m.fragment := by
  unfold guarded Fragment.parenthesized
  rw [if_pos empty, ite_self]

theorem join_eq (logic : Logic) (members : List Member) :
    join logic members =
      (Fragment.join logic (members.map (guarded (areCrowded members)))).parenthesized := by
  have kept : (members.filter (!·.fragment.isEmpty)).map (guarded (areCrowded members)) =
      (members.map (guarded (areCrowded members))).filter (!·.isEmpty) := by
    rw [List.filter_map]
    congr 2
    funext m
    simp [isEmpty_guarded]
  have same : join logic members = (Fragment.join logic
      ((members.filter (!·.fragment.isEmpty)).map (guarded (areCrowded members)))).parenthesized :=
    rfl
  rw [same, kept, Fragment.join_filter]

end Member

/-! ## Woven fragments -/

/-- `Woven parts whole`: the whole is made of the parts in their order, with nothing but connectives
and parentheses in between. A part without text leaves no trace. -/
inductive Woven : List Fragment → Fragment → Prop
  | nothing : Woven [] {}
  | part {f : Fragment} (traceless : f.isEmpty = true → f = {}) : Woven [f] f
  | parenthesized {fs : List Fragment} {f : Fragment} : Woven fs f → Woven fs f.parenthesized
  | link {fs gs : List Fragment} {f g : Fragment} (logic : Logic) :
    Woven fs f → Woven gs g → Woven (fs ++ gs) (Fragment.link logic f g)

/-- Parts that are woven one by one, each from its share of the fragments. -/
inductive WovenAll : List Fragment → List Fragment → Prop
  | nil : WovenAll [] []
  | cons {fs gs parts : List Fragment} {f : Fragment} :
    Woven fs f → WovenAll gs parts → WovenAll (fs ++ gs) (f :: parts)

namespace Woven

/-- What is woven has text exactly when one of its parts has. -/
theorem isEmpty_iff {fs : List Fragment} {f : Fragment} (woven : Woven fs f) :
    f.isEmpty = true ↔ ∀ g ∈ fs, g.isEmpty = true := by
  induction woven with
  | nothing => simp [Fragment.isEmpty]
  | part _ => simp
  | parenthesized _ ih => rwa [Fragment.isEmpty_parenthesized]
  | @link fs gs f g logic _ _ first second =>
    rw [Fragment.isEmpty_link, Bool.and_eq_true, first, second]
    simp [or_imp, forall_and]

/-- Each part stands in what is woven. -/
theorem infix_of_mem {fs : List Fragment} {f g : Fragment} (woven : Woven fs f) (mem : g ∈ fs) :
    g.sql.toList <:+: f.sql.toList := by
  induction woven with
  | nothing => cases mem
  | part _ =>
    obtain rfl := List.mem_singleton.mp mem
    exact List.infix_rfl
  | @parenthesized fs f _ ih => exact (ih mem).trans (Fragment.infix_parenthesized f)
  | @link fs gs f f' logic _ _ first second =>
    rcases List.mem_append.mp mem with left | right
    · exact (first left).trans (Fragment.infix_link_left logic f f')
    · exact (second right).trans (Fragment.infix_link_right logic f f')

end Woven

theorem Woven.guarded {fs : List Fragment} {m : Member} (crowded : Bool)
    (woven : Woven fs m.fragment) : Woven fs (m.guarded crowded) := by
  unfold Member.guarded
  split
  · exact .parenthesized woven
  · exact woven

namespace WovenAll

theorem join {fs parts : List Fragment} (logic : Logic) (woven : WovenAll fs parts) :
    Woven fs (Fragment.join logic parts) := by
  induction woven with
  | nil => exact .nothing
  | cons first _ rest =>
    rw [Fragment.join_cons]
    exact .link logic first rest

theorem guarded {fs : List Fragment} {members : List Member} (crowded : Bool)
    (woven : WovenAll fs (members.map Member.fragment)) :
    WovenAll fs (members.map (Member.guarded crowded)) := by
  induction members generalizing fs with
  | nil => exact woven
  | cons m rest ih =>
    cases woven with
    | cons first others => exact .cons (first.guarded crowded) (ih others)

theorem joinMembers {fs : List Fragment} {members : List Member} (logic : Logic)
    (woven : WovenAll fs (members.map Member.fragment)) :
    Woven fs (Member.join logic members) := by
  rw [Member.join_eq]
  exact .parenthesized ((woven.guarded _).join logic)

end WovenAll

/-! ## Compiling weaves the leaves -/

namespace Leaf

theorem fragment_comparison_eq_ok_iff {r : Rendering} {key : String} {value : SqlValue}
    {f : Fragment} : (comparison key value).fragment r = .ok f ↔
      ∃ parsed, FieldKey.read key = .ok parsed ∧
        parsed.clause r.mode (r.hooks.apply parsed.field value) = .ok f := by
  cases read : FieldKey.read key <;> simp [fragment, read, bind, Except.bind]

theorem fragment_strayCondition_ne_ok (r : Rendering) (key : String) (f : Fragment) :
    (strayCondition key).fragment r ≠ .ok f := by
  cases read : FieldKey.read key <;> simp [fragment, read, bind, Except.bind]

/-- Only blank raw text becomes no text, and then nothing is bound either. -/
theorem traceless_fragment {r : Rendering} {leaf : Leaf} {f : Fragment}
    (made : leaf.fragment r = .ok f) (empty : f.isEmpty = true) : f = {} := by
  cases leaf with
  | raw sql =>
    cases made
    exact Fragment.ext (Fragment.isEmpty_iff.mp empty) rfl
  | comparison key value =>
    obtain ⟨parsed, -, clause⟩ := fragment_comparison_eq_ok_iff.mp made
    rw [FieldKey.isEmpty_clause clause] at empty
    cases empty
  | strayValue key value => cases made
  | strayCondition key => exact (fragment_strayCondition_ne_ok r key f made).elim

/-- In two lists that are related item by item, each item on the left has one on the right. -/
theorem exists_right_of_mem {α β : Type} {R : α → β → Prop} {as : List α} {bs : List β} {a : α}
    (related : List.Forall₂ R as bs) (mem : a ∈ as) : ∃ b ∈ bs, R a b := by
  induction related with
  | nil => cases mem
  | cons first _ ih =>
    rcases List.mem_cons.mp mem with rfl | later
    · exact ⟨_, by simp, first⟩
    · obtain ⟨b, memRight, holds⟩ := ih later
      exact ⟨b, List.mem_cons_of_mem _ memRight, holds⟩

/-- A single leaf is woven from itself. -/
theorem tied_singleton (r : Rendering) (leaf : Leaf) :
    Tied Woven ([leaf].mapM (fragment r)) (leaf.fragment r) := by
  cases made : leaf.fragment r with
  | error e =>
    have fails : [leaf].mapM (fragment r) = .error e := by simp [made, bind, Except.bind]
    rw [fails]
    exact .error e
  | ok f =>
    have succeeds : [leaf].mapM (fragment r) = .ok [f] := by
      simp [made, bind, Except.bind, pure, Except.pure]
    rw [succeeds]
    exact .ok (.part (traceless_fragment made))

end Leaf

namespace Condition

open Leaf (fragment)

mutual

/-- Compiling fails with the error of the first failing leaf, or weaves the leaves. -/
theorem weaves_compile (r : Rendering) (logic : Logic) (c : Condition) :
    Tied Woven (c.leaves.mapM (fragment r)) (c.compile r logic) := by
  match c with
  | .raw sql => exact Leaf.tied_singleton r (.raw sql)
  | .sequence members =>
    rw [leaves, compile]
    exact (weaves_compileMembers r logic members).map fun _ _ woven => woven.joinMembers logic
  | .fields entries =>
    rw [leaves, compile]
    exact (weaves_compileEntries r entries).map fun _ _ woven => woven.join logic
  | .group own members =>
    rw [leaves, compile]
    exact (weaves_compileMembers r own members).map fun _ _ woven => woven.joinMembers own

theorem weaves_compileMembers (r : Rendering) (logic : Logic) (members : List Condition) :
    Tied (fun fs parts => WovenAll fs (parts.map Member.fragment))
      ((memberLeaves members).mapM (fragment r)) (compileMembers r logic members) := by
  match members with
  | [] => exact .ok .nil
  | member :: rest =>
    rw [memberLeaves, compileMembers, List.mapM_append]
    refine (weaves_compile r logic member).bind fun fs f first => ?_
    refine (weaves_compileMembers r logic rest).bind fun gs parts others => ?_
    exact .ok (.cons first others)

theorem weaves_compileEntries (r : Rendering) (entries : List Entry) :
    Tied WovenAll ((entryLeaves entries).mapM (fragment r)) (compileEntries r entries) := by
  match entries with
  | [] => exact .ok .nil
  | entry :: rest =>
    rw [entryLeaves, compileEntries, List.mapM_append]
    refine (weaves_compileEntry r entry).bind fun fs f first => ?_
    refine (weaves_compileEntries r rest).bind fun gs parts others => ?_
    exact .ok (.cons first others)

theorem weaves_compileEntry (r : Rendering) (entry : Entry) :
    Tied Woven ((leavesOfEntry entry).mapM (fragment r)) (compileEntry r entry) := by
  match entry with
  | .value key value =>
    rw [leavesOfEntry]
    unfold Leaf.ofValue compileEntry
    cases Logic.ofKey? key with
    | none => exact Leaf.tied_singleton r (.comparison key value)
    | some logic =>
      cases value with
      | text sql =>
        have made : (Leaf.raw sql).fragment r = .ok (.ofText (Text.trimmed sql)) := rfl
        exact .ok (.parenthesized (.part (Leaf.traceless_fragment made)))
      | _ => exact .error _
  | .nested key condition =>
    rw [leavesOfEntry, compileEntry]
    cases Logic.ofKey? key with
    | none => exact Leaf.tied_singleton r (.strayCondition key)
    | some logic =>
      refine (weaves_compile r logic condition).map fun fs f woven => ?_
      split
      · exact woven
      · exact .parenthesized woven

end

/-- A tree that compiles is woven from its leaves. -/
theorem woven_of_compile {r : Rendering} {logic : Logic} {c : Condition} {f : Fragment}
    (compiled : c.compile r logic = .ok f) :
    ∃ fs, List.Forall₂ (fun leaf g => fragment r leaf = .ok g) c.leaves fs ∧ Woven fs f := by
  have tied := weaves_compile r logic c
  rw [compiled] at tied
  cases made : c.leaves.mapM (fragment r) with
  | error e =>
    rw [made] at tied
    cases tied
  | ok fs =>
    rw [made] at tied
    cases tied with
    | ok woven => exact ⟨fs, mapM_eq_ok_iff.mp made, woven⟩

/-- What holds of the single leaves, and survives parentheses and connectives, holds of a tree. -/
theorem compile_induction {r : Rendering} {logic : Logic} {c : Condition} {f : Fragment}
    {P : List Leaf → Fragment → Prop} (nothing : P [] {})
    (part : ∀ leaf ∈ c.leaves, ∀ g, fragment r leaf = .ok g → P [leaf] g)
    (parenthesized : ∀ leaves g, P leaves g → P leaves g.parenthesized)
    (link : ∀ logic first others g h, P first g → P others h →
      P (first ++ others) (Fragment.link logic g h))
    (compiled : c.compile r logic = .ok f) : P c.leaves f := by
  obtain ⟨fs, made, woven⟩ := woven_of_compile compiled
  clear compiled
  generalize c.leaves = leaves at part made
  induction woven generalizing leaves with
  | nothing =>
    cases made
    exact nothing
  | part _ =>
    obtain ⟨leaf, rest, here, later, rfl⟩ := List.forall₂_cons_right_iff.mp made
    cases later
    exact part leaf (List.mem_singleton.mpr rfl) _ here
  | parenthesized _ ih => exact parenthesized _ _ (ih leaves part made)
  | @link fs gs g h logic _ _ first second =>
    have front := List.forall₂_take_append leaves fs gs made
    have back := List.forall₂_drop_append leaves fs gs made
    rw [← List.take_append_drop fs.length leaves]
    refine link logic _ _ g h (first _ (fun leaf mem => ?_) front)
      (second _ (fun leaf mem => ?_) back)
    · exact part leaf (List.mem_of_mem_take mem)
    · exact part leaf (List.mem_of_mem_drop mem)

/-- A tree that does not compile has a leaf that fails with the same error. -/
theorem exists_leaf_of_compile_eq_error {r : Rendering} {logic : Logic} {c : Condition} {e : Error}
    (failed : c.compile r logic = .error e) : ∃ leaf ∈ c.leaves, fragment r leaf = .error e := by
  have tied := weaves_compile r logic c
  rw [failed] at tied
  cases made : c.leaves.mapM (fragment r) with
  | error e' =>
    rw [made] at tied
    cases tied
    obtain ⟨before, leaf, after, listed, -, failed⟩ := mapM_eq_error_iff.mp made
    exact ⟨leaf, by simp [listed], failed⟩
  | ok fs =>
    rw [made] at tied
    cases tied

end Condition

end Clausal
