import Clausal.Proofs.Condition.Entries
import Clausal.Proofs.Text.Trim
import Mathlib.Logic.Relation
/-!
# Members that say nothing

A member or an entry that becomes no text can be taken out of a tree, at any depth, and the tree
becomes what it was: the same text with the same values, or the same error. Its leaves are blank raw
texts, so it becomes no text under either connective, in either mode and with any hooks. Without it
the members around it are joined as before, and raw text among them is guarded as before, because
only members with text count. When nothing more can be taken out, a tree that becomes no text is
blank raw text, or has no members or entries left.
-/

namespace Clausal

/-! ## Blank leaves -/

namespace Leaf

/-- Whether a leaf is blank raw text. -/
def isBlank : Leaf → Bool
  | .raw sql => Text.isBlankString sql
  | _ => false

theorem fragment_eq_empty_iff {r : Rendering} {leaf : Leaf} :
    leaf.fragment r = .ok {} ↔ leaf.isBlank = true := by
  cases leaf with
  | raw sql =>
    rw [isBlank, ← Text.trimmed_eq_empty_iff]
    constructor
    · intro made
      exact congrArg Fragment.sql (Except.ok.inj made)
    · intro empty
      rw [fragment, empty]
      rfl
  | comparison key value =>
    refine ⟨fun made => ?_, fun blank => absurd blank Bool.false_ne_true⟩
    obtain ⟨parsed, -, clause⟩ := fragment_comparison_eq_ok_iff.mp made
    cases FieldKey.isEmpty_clause clause
  | strayValue key value =>
    refine ⟨fun made => ?_, fun blank => absurd blank Bool.false_ne_true⟩
    cases made
  | strayCondition key =>
    refine ⟨fun made => ?_, fun blank => absurd blank Bool.false_ne_true⟩
    exact (fragment_strayCondition_ne_ok r key {} made).elim

variable {r : Rendering} {leaves : List Leaf} {made : Except Error Fragment}

/-- What is woven from leaves has no text only if all of them are blank. -/
theorem isBlank_of_isEmpty {f : Fragment} (tied : Tied Woven (leaves.mapM (fragment r)) (.ok f))
    (empty : f.isEmpty = true) : ∀ leaf ∈ leaves, leaf.isBlank = true := by
  intro leaf mem
  obtain ⟨fs, each, woven⟩ := tied.exists_of_eq_ok rfl
  obtain ⟨g, part, here⟩ := exists_right_of_mem (mapM_eq_ok_iff.mp each) mem
  rw [traceless_fragment here (woven.isEmpty_iff.mp empty g part)] at here
  exact fragment_eq_empty_iff.mp here

/-- Blank leaves are woven into nothing. -/
theorem eq_empty_of_isBlank (tied : Tied Woven (leaves.mapM (fragment r)) made)
    (blank : ∀ leaf ∈ leaves, leaf.isBlank = true) : made = .ok {} := by
  have each : ∀ leaf ∈ leaves, ∃ f, leaf.fragment r = .ok f := fun leaf mem =>
    ⟨{}, fragment_eq_empty_iff.mpr (blank leaf mem)⟩
  obtain ⟨f, rfl⟩ := tied.exists_ok_iff.mp (exists_mapM_eq_ok_iff.mpr each)
  obtain ⟨fs, parts, woven⟩ := tied.exists_of_eq_ok rfl
  have empty : ∀ g ∈ fs, g.isEmpty = true := by
    intro g mem
    obtain ⟨leaf, memLeaf, here⟩ := exists_right_of_mem (mapM_eq_ok_iff.mp parts).flip mem
    rw [fragment_eq_empty_iff.mpr (blank leaf memLeaf)] at here
    cases here
    rfl
  exact congrArg Except.ok (woven.eq_empty (woven.isEmpty_iff.mpr empty))

end Leaf

/-! ## Silence -/

/-- A condition is silent when it compiles to no text, under some connective and in some
rendering. -/
def Condition.Silent (c : Condition) : Prop :=
  ∃ r logic f, c.compile r logic = .ok f ∧ f.isEmpty = true

/-- An entry is silent when it compiles to no text. -/
def Entry.Silent (entry : Entry) : Prop :=
  ∃ r f, Condition.compileEntry r entry = .ok f ∧ f.isEmpty = true

namespace Condition

theorem silent_iff {c : Condition} : c.Silent ↔ ∀ leaf ∈ c.leaves, leaf.isBlank = true := by
  constructor
  · rintro ⟨r, logic, f, compiled, empty⟩
    have tied := weaves_compile r logic c
    rw [compiled] at tied
    exact Leaf.isBlank_of_isEmpty tied empty
  · intro blank
    exact ⟨{}, .and, {}, Leaf.eq_empty_of_isBlank (weaves_compile _ _ c) blank, rfl⟩

/-- Silence does not depend on where and how a condition is compiled. -/
theorem Silent.compile_eq {c : Condition} (silent : c.Silent) (r : Rendering) (logic : Logic) :
    c.compile r logic = .ok {} :=
  Leaf.eq_empty_of_isBlank (weaves_compile r logic c) (silent_iff.mp silent)

end Condition

namespace Entry

open Condition (compileEntry leavesOfEntry weaves_compileEntry)

theorem silent_iff {entry : Entry} :
    entry.Silent ↔ ∀ leaf ∈ leavesOfEntry entry, leaf.isBlank = true := by
  constructor
  · rintro ⟨r, f, compiled, empty⟩
    have tied := weaves_compileEntry r entry
    rw [compiled] at tied
    exact Leaf.isBlank_of_isEmpty tied empty
  · intro blank
    exact ⟨{}, {}, Leaf.eq_empty_of_isBlank (weaves_compileEntry _ entry) blank, rfl⟩

theorem Silent.compile_eq {entry : Entry} (silent : entry.Silent) (r : Rendering) :
    compileEntry r entry = .ok {} :=
  Leaf.eq_empty_of_isBlank (weaves_compileEntry r entry) (silent_iff.mp silent)

end Entry

/-! ## Neutral parts -/

/-- A member without text changes neither what is joined nor what is guarded. -/
theorem Member.join_of_isEmpty {logic : Logic} {m : Member} (empty : m.fragment.isEmpty = true)
    (front back : List Member) : join logic (front ++ m :: back) = join logic (front ++ back) := by
  have kept : (front ++ m :: back).filter (!·.fragment.isEmpty) =
      (front ++ back).filter (!·.fragment.isEmpty) := by
    simp [List.filter_append, empty]
  unfold join
  rw [kept]

theorem Fragment.join_of_isEmpty {logic : Logic} {f : Fragment} (empty : f.isEmpty = true)
    (front back : List Fragment) :
    join logic (front ++ f :: back) = join logic (front ++ back) := by
  have kept : (front ++ f :: back).filter (!·.isEmpty) =
      (front ++ back).filter (!·.isEmpty) := by
    simp [List.filter_append, empty]
  unfold join
  rw [kept]

namespace Condition

/-- A member on its own, before it is joined. -/
def compileMember (r : Rendering) (logic : Logic) (member : Condition) : Except Error Member := do
  let fragment ← compile r logic member
  return ⟨member.isRaw, fragment⟩

theorem compileMembers_eq_mapM (r : Rendering) (logic : Logic) (members : List Condition) :
    compileMembers r logic members = members.mapM (compileMember r logic) := by
  induction members with
  | nil => rfl
  | cons member rest ih =>
    rw [compileMembers, ih, List.mapM_cons, compileMember]
    cases compile r logic member <;> rfl

theorem compileEntries_eq_mapM (r : Rendering) (entries : List Entry) :
    compileEntries r entries = entries.mapM (compileEntry r) := by
  induction entries with
  | nil => rfl
  | cons entry rest ih => rw [compileEntries, ih, List.mapM_cons]

section

variable {c c' : Condition} {r : Rendering}

/-- A member may stand in the place of another that becomes the same. -/
theorem compileMembers_congr (raw : c'.isRaw = c.isRaw) {logic : Logic}
    (same : c'.compile r logic = c.compile r logic) (before after : List Condition) :
    compileMembers r logic (before ++ c' :: after) =
      compileMembers r logic (before ++ c :: after) := by
  rw [compileMembers_eq_mapM, compileMembers_eq_mapM]
  refine mapM_append_cons_congr ?_ before after
  rw [compileMember, compileMember, same, raw]

/-- So may a condition that an entry nests. -/
theorem compileEntries_congr (delimited : c'.isDelimited = c.isDelimited)
    (same : ∀ logic, c'.compile r logic = c.compile r logic) (key : String)
    (before after : List Entry) : compileEntries r (before ++ .nested key c' :: after) =
      compileEntries r (before ++ .nested key c :: after) := by
  rw [compileEntries_eq_mapM, compileEntries_eq_mapM]
  refine mapM_append_cons_congr ?_ before after
  simp only [compileEntry, same, delimited]

end

/-! ## Taking out -/

/-- One silent member or entry is taken out of a tree: at its root, or within one of its members, or
within a condition that one of its entries nests. -/
inductive Removal : Condition → Condition → Prop
  | fromSequence {c : Condition} {before after : List Condition} : c.Silent →
    Removal (.sequence (before ++ c :: after)) (.sequence (before ++ after))
  | fromGroup {own : Logic} {c : Condition} {before after : List Condition} : c.Silent →
    Removal (.group own (before ++ c :: after)) (.group own (before ++ after))
  | fromFields {entry : Entry} {before after : List Entry} : entry.Silent →
    Removal (.fields (before ++ entry :: after)) (.fields (before ++ after))
  | inSequence {c c' : Condition} {before after : List Condition} : Removal c c' →
    Removal (.sequence (before ++ c :: after)) (.sequence (before ++ c' :: after))
  | inGroup {own : Logic} {c c' : Condition} {before after : List Condition} : Removal c c' →
    Removal (.group own (before ++ c :: after)) (.group own (before ++ c' :: after))
  | inFields {key : String} {c c' : Condition} {before after : List Entry} : Removal c c' →
    Removal (.fields (before ++ .nested key c :: after))
      (.fields (before ++ .nested key c' :: after))

variable {c c' : Condition}

/-- Silent members and entries are taken out, one after another. -/
abbrev Removals : Condition → Condition → Prop :=
  Relation.ReflTransGen Removal

/-- There is no silent member or entry to take out. -/
def Exhausted (c : Condition) : Prop :=
  ∀ c', ¬ Removal c c'

theorem Removal.isRaw_eq (removal : Removal c c') : c'.isRaw = c.isRaw := by
  cases removal <;> rfl

theorem Removal.isDelimited_eq (removal : Removal c c') : c'.isDelimited = c.isDelimited := by
  cases removal <;> rfl

theorem Silent.compileMember_eq (silent : c.Silent) (r : Rendering) (logic : Logic) :
    compileMember r logic c = .ok ⟨c.isRaw, {}⟩ := by
  rw [compileMember, silent.compile_eq r logic]
  rfl

theorem Silent.join_compileMembers (silent : c.Silent) (r : Rendering) (logic : Logic)
    (before after : List Condition) :
    (do return Member.join logic (← compileMembers r logic (before ++ after))) =
      (do return Member.join logic (← compileMembers r logic (before ++ c :: after))) := by
  rw [compileMembers_eq_mapM, compileMembers_eq_mapM]
  exact mapM_append_of_neutral (silent.compileMember_eq r logic) (Member.join_of_isEmpty rfl)
    before after

/-- A tree becomes what it was. -/
theorem Removal.compile_eq (removal : Removal c c') (r : Rendering) (logic : Logic) :
    c'.compile r logic = c.compile r logic := by
  induction removal generalizing logic with
  | fromSequence silent =>
    rw [compile, compile]
    exact silent.join_compileMembers r logic _ _
  | @fromGroup own c before after silent =>
    rw [compile, compile]
    exact silent.join_compileMembers r own _ _
  | @fromFields entry before after silent =>
    rw [compile, compile, compileEntries_eq_mapM, compileEntries_eq_mapM]
    exact mapM_append_of_neutral (silent.compile_eq r) (Fragment.join_of_isEmpty rfl) before after
  | inSequence removal ih =>
    rw [compile, compile, compileMembers_congr removal.isRaw_eq (ih logic)]
  | @inGroup own c c' before after removal ih =>
    rw [compile, compile, compileMembers_congr removal.isRaw_eq (ih own)]
  | inFields removal ih =>
    rw [compile, compile, compileEntries_congr removal.isDelimited_eq ih]

theorem Removals.compile_eq (removals : Removals c c') (r : Rendering) (logic : Logic) :
    c'.compile r logic = c.compile r logic := by
  induction removals with
  | refl => rfl
  | tail _ removal ih => exact (removal.compile_eq r logic).trans ih

/-! ## What is left -/

theorem sizeOf_append_lt {α : Type} [SizeOf α] (front : List α) {a b : List α}
    (smaller : sizeOf a < sizeOf b) : sizeOf (front ++ a) < sizeOf (front ++ b) := by
  induction front with
  | nil => exact smaller
  | cons x front ih =>
    simp only [List.cons_append, List.cons.sizeOf_spec]
    omega

theorem sizeOf_append_cons_lt {α : Type} [SizeOf α] (x : α) (front back : List α) :
    sizeOf (front ++ back) < sizeOf (front ++ x :: back) := by
  refine sizeOf_append_lt front ?_
  rw [List.cons.sizeOf_spec]
  omega

theorem sizeOf_append_cons_lt_of_lt {α : Type} [SizeOf α] {x x' : α}
    (smaller : sizeOf x' < sizeOf x) (front back : List α) :
    sizeOf (front ++ x' :: back) < sizeOf (front ++ x :: back) := by
  refine sizeOf_append_lt front ?_
  rw [List.cons.sizeOf_spec, List.cons.sizeOf_spec]
  omega

theorem Removal.sizeOf_lt (removal : Removal c c') : sizeOf c' < sizeOf c := by
  induction removal with
  | @fromSequence c before after _ =>
    have fewer := sizeOf_append_cons_lt c before after
    simp only [sequence.sizeOf_spec]
    omega
  | @fromGroup own c before after _ =>
    have fewer := sizeOf_append_cons_lt c before after
    simp only [group.sizeOf_spec]
    omega
  | @fromFields entry before after _ =>
    have fewer := sizeOf_append_cons_lt entry before after
    simp only [fields.sizeOf_spec]
    omega
  | @inSequence c c' before after _ ih =>
    have smaller := sizeOf_append_cons_lt_of_lt ih before after
    simp only [sequence.sizeOf_spec]
    omega
  | @inGroup own c c' before after _ ih =>
    have smaller := sizeOf_append_cons_lt_of_lt ih before after
    simp only [group.sizeOf_spec]
    omega
  | @inFields key c c' before after _ ih =>
    have entry : sizeOf (Entry.nested key c') < sizeOf (Entry.nested key c) := by
      simp only [Entry.nested.sizeOf_spec]
      omega
    have smaller := sizeOf_append_cons_lt_of_lt entry before after
    simp only [fields.sizeOf_spec]
    omega

/-- Taking out comes to an end. -/
theorem exists_exhausted (c : Condition) : ∃ rest, Removals c rest ∧ rest.Exhausted := by
  induction bound : sizeOf c using Nat.strong_induction_on generalizing c with
  | h size ih =>
    by_cases exhausted : c.Exhausted
    · exact ⟨c, .refl, exhausted⟩
    · obtain ⟨c', removal⟩ : ∃ c', Removal c c' := by simpa [Exhausted] using exhausted
      obtain ⟨rest, later, done⟩ := ih _ (bound ▸ removal.sizeOf_lt) c' rfl
      exact ⟨rest, .head removal later, done⟩

/-- A silent tree from which nothing more can be taken out holds nothing. -/
theorem Exhausted.isEmpty (exhausted : c.Exhausted) (silent : c.Silent) : c.isEmpty = true := by
  have blank := silent_iff.mp silent
  cases c with
  | raw sql => exact blank (.raw sql) (List.mem_singleton.mpr rfl)
  | sequence members =>
    cases members with
    | nil => rfl
    | cons member rest =>
      have first : member.Silent := silent_iff.mpr fun leaf mem =>
        blank leaf (List.mem_append_left _ mem)
      exact absurd (@Removal.fromSequence member [] rest first) (exhausted _)
  | fields entries =>
    cases entries with
    | nil => rfl
    | cons entry rest =>
      have first : entry.Silent := Entry.silent_iff.mpr fun leaf mem =>
        blank leaf (List.mem_append_left _ mem)
      exact absurd (@Removal.fromFields entry [] rest first) (exhausted _)
  | group own members =>
    cases members with
    | nil => rfl
    | cons member rest =>
      have first : member.Silent := silent_iff.mpr fun leaf mem =>
        blank leaf (List.mem_append_left _ mem)
      exact absurd (@Removal.fromGroup own member [] rest first) (exhausted _)

/-- What holds nothing is silent. -/
theorem silent_of_isEmpty (empty : c.isEmpty = true) : c.Silent := by
  refine silent_iff.mpr ?_
  cases c with
  | raw sql => exact List.forall_mem_singleton.mpr empty
  | sequence members =>
    rw [isEmpty, List.isEmpty_iff] at empty
    simp [leaves, empty, memberLeaves]
  | fields entries =>
    rw [isEmpty, List.isEmpty_iff] at empty
    simp [leaves, empty, entryLeaves]
  | group own members =>
    rw [isEmpty, List.isEmpty_iff] at empty
    simp [leaves, empty, memberLeaves]

/-- Silent members and entries, those of blank raw texts alone, are neutral: taking them out, one or
as many as there are, changes neither the predicate of a tree nor its error. They can be taken out
until there are no more, and then a tree that compiles becomes nothing exactly when nothing is left
of it. -/
theorem compile_neutral (c : Condition) :
    (c.Silent ↔ ∀ leaf ∈ c.leaves, leaf.isBlank = true) ∧
      (∀ c', Removals c c' → ∀ r logic, c'.compile r logic = c.compile r logic) ∧
      (∃ rest, Removals c rest ∧ rest.Exhausted) ∧
      ∀ rest, Removals c rest → rest.Exhausted → ∀ r logic f, c.compile r logic = .ok f →
        (f = {} ↔ rest.isEmpty = true) := by
  refine ⟨silent_iff, fun c' removals => removals.compile_eq, exists_exhausted c, ?_⟩
  intro rest removals exhausted r logic f compiled
  rw [← removals.compile_eq r logic] at compiled
  constructor
  · rintro rfl
    exact exhausted.isEmpty ⟨r, logic, {}, compiled, rfl⟩
  · intro empty
    rw [(silent_of_isEmpty empty).compile_eq r logic] at compiled
    exact (Except.ok.inj compiled).symm

/-- Raw text beside a group that says nothing is not guarded, as if it stood alone. -/
theorem compile_neutral_group :
    (∀ r logic, (sequence [.raw "a = 1"]).compile r logic = (sequence [.raw "a = 1",
        .group .or [.raw " ", .fields [.nested "and" (.sequence [])]]]).compile r logic) ∧
      ∃ rest, Removals (.group .or [.raw " ", .fields [.nested "and" (.sequence [])]]) rest ∧
        rest.Exhausted ∧ rest.isEmpty = true := by
  have mute (r : Rendering) (logic : Logic) :
      (group .or [.raw " ", .fields [.nested "and" (.sequence [])]]).compile r logic = .ok {} := rfl
  constructor
  · obtain ⟨-, same, -⟩ := compile_neutral (sequence [.raw "a = 1",
      .group .or [.raw " ", .fields [.nested "and" (.sequence [])]]])
    refine same _ (.single ?_)
    exact @Removal.fromSequence _ [.raw "a = 1"] [] ⟨{}, .and, {}, mute _ _, rfl⟩
  · obtain ⟨-, -, ⟨rest, removals, exhausted⟩, left⟩ :=
      compile_neutral (group .or [.raw " ", .fields [.nested "and" (.sequence [])]])
    exact ⟨rest, removals, exhausted,
      (left rest removals exhausted {} .and {} (mute _ _)).mp rfl⟩

end Condition

end Clausal
