import Clausal.Proofs.Condition.Fault
import Clausal.Proofs.Text.Trim
import Clausal.Write.Mutation
/-!
# Writes never reach every row

An update or a deletion carries a WHERE clause that says something: the predicate of a condition is
blank exactly when no leaf of the tree says anything, however its sequences, groups, fields and
connectives are nested, and a blank predicate is refused. It is refused for no other reason.
-/

namespace Clausal

open Text (isBlank isBlankString)

/-! ## Leaves that say something -/

namespace MatchOp

/-- A symbol is never blank. -/
theorem isBlankString_symbol (op : MatchOp) : isBlankString op.symbol = false := by
  cases op <;> decide

end MatchOp

namespace Leaf

/-- A leaf says something when it is a comparison, or raw text that is not blank. -/
def Speaks : Leaf → Prop
  | .raw sql => isBlankString sql = false
  | .comparison _ _ => True
  | .strayValue _ _ => False
  | .strayCondition _ => False

end Leaf

theorem Text.isBlankString_of_infix {s t : String} (inside : s.toList <:+: t.toList)
    (blank : isBlankString t = true) : isBlankString s = true := by
  rw [isBlankString, List.all_eq_true] at blank ⊢
  exact fun c mem => blank c (inside.mem mem)

theorem Fragment.isBlankString_of_isEmpty {f : Fragment} (empty : f.isEmpty = true) :
    isBlankString f.sql = true := by
  rw [Fragment.isEmpty_iff.mp empty]
  rfl

theorem FieldKey.isBlankString_clause {key : FieldKey} {mode : Mode} {value : SqlValue}
    {f : Fragment} (made : key.clause mode value = .ok f) : isBlankString f.sql = false := by
  obtain ⟨items, -, rfl⟩ := FieldKey.clause_eq_ok_iff.mp made
  rw [Bool.eq_false_iff]
  intro blank
  have inside : key.op.symbol.toList <:+: (Fragment.ofText key.opening ++
      key.op.layout (items.map (.ofValue (key.op.modeOf mode)))).sql.toList :=
    ⟨(Identifier.quote key.field ++ " ").toList, _, by simp [opening, List.append_assoc]; rfl⟩
  have symbol := Text.isBlankString_of_infix inside blank
  rw [MatchOp.isBlankString_symbol] at symbol
  cases symbol

namespace Leaf

/-- A leaf that says something becomes text that is not blank; any other becomes no text. -/
theorem isBlankString_fragment {r : Rendering} {leaf : Leaf} {f : Fragment}
    (made : leaf.fragment r = .ok f) :
    (leaf.Speaks ∧ isBlankString f.sql = false) ∨ (¬ leaf.Speaks ∧ f.isEmpty = true) := by
  cases leaf with
  | raw sql =>
    cases made
    cases blank : isBlankString sql with
    | false => exact .inl ⟨blank, by simpa [Text.isBlankString_trimmed] using blank⟩
    | true =>
      refine .inr ⟨by simp [Speaks, blank], ?_⟩
      exact Fragment.isEmpty_iff.mpr (Text.trimmed_eq_empty_iff.mpr blank)
  | comparison key value =>
    obtain ⟨parsed, -, clause⟩ := fragment_comparison_eq_ok_iff.mp made
    exact .inl ⟨trivial, FieldKey.isBlankString_clause clause⟩
  | strayValue key value => cases made
  | strayCondition key => exact (fragment_strayCondition_ne_ok r key f made).elim

end Leaf

namespace Condition

/-- Some leaf of the tree says something, and what it becomes stands in the predicate. -/
def IsSaidIn (r : Rendering) (c : Condition) (predicate : Fragment) : Prop :=
  ∃ leaf ∈ c.leaves, leaf.Speaks ∧
    ∃ piece, leaf.fragment r = .ok piece ∧ piece.sql.toList <:+: predicate.sql.toList

/-- A predicate says something that a leaf says, or it is no text and no leaf says anything. -/
theorem isSaidIn_or_silent {r : Rendering} {logic : Logic} {c : Condition} {f : Fragment}
    (compiled : c.compile r logic = .ok f) :
    (isBlankString f.sql = false ∧ c.IsSaidIn r f) ∨
      (f.isEmpty = true ∧ ∀ leaf ∈ c.leaves, ¬ leaf.Speaks) := by
  obtain ⟨fs, made, woven⟩ := woven_of_compile compiled
  by_cases silent : ∀ leaf ∈ c.leaves, ¬ leaf.Speaks
  · refine .inr ⟨?_, silent⟩
    have empty : ∀ g ∈ fs, g.isEmpty = true := by
      intro g mem
      obtain ⟨leaf, memLeaf, madeLeaf⟩ := Leaf.exists_right_of_mem made.flip mem
      rcases Leaf.isBlankString_fragment madeLeaf with ⟨speaks, -⟩ | ⟨-, empty⟩
      · exact (silent leaf memLeaf speaks).elim
      · exact empty
    exact woven.isEmpty_iff.mpr empty
  · simp only [not_forall, not_not] at silent
    obtain ⟨leaf, mem, speaks⟩ := silent
    obtain ⟨piece, memPiece, madePiece⟩ := Leaf.exists_right_of_mem made mem
    have inside := woven.infix_of_mem memPiece
    refine .inl ⟨?_, leaf, mem, speaks, piece, madePiece, inside⟩
    rcases Leaf.isBlankString_fragment madePiece with ⟨-, full⟩ | ⟨silent, -⟩
    · cases blank : isBlankString f.sql with
      | false => rfl
      | true => rw [Text.isBlankString_of_infix inside blank] at full; cases full
    · exact (silent speaks).elim

/-- A predicate is blank only where it is no text. -/
theorem isBlankString_of_compile {r : Rendering} {logic : Logic} {c : Condition} {f : Fragment}
    (compiled : c.compile r logic = .ok f) : isBlankString f.sql = f.isEmpty := by
  rcases isSaidIn_or_silent compiled with ⟨full, -⟩ | ⟨empty, -⟩
  · cases empty : f.isEmpty with
    | false => exact full
    | true =>
      rw [Fragment.isBlankString_of_isEmpty empty] at full
      cases full
  · rw [empty, Fragment.isBlankString_of_isEmpty empty]

end Condition

/-! ## Errors of conditions -/

/-- The errors that a condition can have: what is wrong with a key, an operator, a value or a shape.
None of them is that it says nothing. -/
def Error.isOfCondition : Error → Bool
  | .unsupportedShape _ => true
  | .unsupportedOperator _ => true
  | .operandCount _ _ _ => true
  | .invalidValue _ => true
  | .malformedKey _ _ => true
  | _ => false

theorem Error.isOfCondition_of_isOfComparison {e : Error} (fault : e.isOfComparison = true) :
    e.isOfCondition = true := by
  revert fault
  cases e <;> simp [isOfComparison, isOfCondition]

theorem Leaf.isOfCondition_of_fragment {r : Rendering} {leaf : Leaf} {e : Error}
    (failed : leaf.fragment r = .error e) : e.isOfCondition = true := by
  cases leaf with
  | raw sql => cases failed
  | comparison key value =>
    exact Error.isOfCondition_of_isOfComparison (isOfComparison_of_fragment failed)
  | strayValue key value =>
    cases failed
    rfl
  | strayCondition key =>
    rcases bind_eq_error_iff.mp failed with unread | ⟨parsed, -, failed⟩
    · exact Error.isOfCondition_of_isOfComparison (FieldKey.isOfComparison_of_read unread)
    · cases failed
      rfl

theorem Condition.isOfCondition_of_compile {r : Rendering} {logic : Logic} {c : Condition}
    {e : Error} (failed : c.compile r logic = .error e) : e.isOfCondition = true := by
  obtain ⟨leaf, -, failedLeaf⟩ := exists_leaf_of_compile_eq_error failed
  exact Leaf.isOfCondition_of_fragment failedLeaf

/-! ## Guarded writes -/

namespace Mutation

/-- The predicate of a write is that of its condition, when it is not blank. -/
theorem predicate_eq_ok_iff {m : Mutation} {c : Condition} {f : Fragment} :
    m.predicate c = .ok f ↔
      c.compile m.rendering .and = .ok f ∧ isBlankString f.sql = false := by
  unfold predicate
  cases c.compile m.rendering .and with
  | error e => simp [bind, Except.bind]
  | ok g =>
    simp only [bind, Except.bind, pure, Except.pure]
    split
    next blank =>
      constructor
      · intro made
        cases made
      · rintro ⟨same, full⟩
        cases same
        rw [blank] at full
        cases full
    next full =>
      constructor
      · intro made
        cases made
        exact ⟨rfl, Bool.eq_false_iff.mpr full⟩
      · rintro ⟨same, -⟩
        exact same

/-- A condition is refused as empty exactly when it compiles and no leaf of it says anything. -/
theorem predicate_eq_emptyCondition_iff {m : Mutation} {c : Condition} :
    m.predicate c = .error .emptyCondition ↔
      (∃ f, c.compile m.rendering .and = .ok f) ∧ ∀ leaf ∈ c.leaves, ¬ leaf.Speaks := by
  unfold predicate
  cases compiled : c.compile m.rendering .and with
  | error e =>
    have kind := Condition.isOfCondition_of_compile compiled
    simp only [bind, Except.bind, Except.error.injEq, reduceCtorEq, exists_false, false_and,
      iff_false]
    rintro rfl
    cases kind
  | ok f =>
    simp only [bind, Except.bind, pure, Except.pure]
    rcases Condition.isSaidIn_or_silent compiled with ⟨full, leaf, mem, speaks, -⟩ | ⟨empty, silent⟩
    · rw [if_neg (by simp [full])]
      constructor
      · intro failed
        cases failed
      · rintro ⟨-, silent⟩
        exact (silent leaf mem speaks).elim
    · rw [if_pos (Fragment.isBlankString_of_isEmpty empty)]
      exact ⟨fun _ => ⟨⟨f, rfl⟩, silent⟩, fun _ => rfl⟩

/-- What stands before WHERE in an update. -/
def updateHead (m : Mutation) (changes : Record) : Fragment :=
  .ofText ("UPDATE " ++ Identifier.quote (Text.trimmed m.table) ++ " SET ") ++
    Fragment.intercalate ", " (changes.entries.map fun (column, v) => m.assignment column v)

/-- What stands before WHERE in a deletion. -/
def deleteHead (m : Mutation) : Fragment :=
  .ofText ("DELETE FROM " ++ Identifier.quote (Text.trimmed m.table))

/-- A head with its WHERE clause. -/
def under (m : Mutation) (head : Fragment) (c : Condition) : Except Error Statement :=
  (m.predicate c).map fun predicate => (head ++ .ofText " WHERE " ++ predicate).toStatement

theorem update_eq (m : Mutation) (changes : Record) (c : Condition) : m.update changes c =
    if changes.isEmpty then .error (.nothingToWrite "nothing to update")
    else if isBlankString m.table then .error .noTable
    else m.under (m.updateHead changes) c := by
  unfold update tableName under
  split
  · rfl
  · split
    · rfl
    · cases m.predicate c <;> rfl

theorem delete_eq (m : Mutation) (c : Condition) : m.delete c =
    if isBlankString m.table then .error .noTable else m.under m.deleteHead c := by
  unfold delete tableName under
  split
  · rfl
  · cases m.predicate c <;> rfl

/-- What is promised of the result of a write under a condition. A statement is the head and a WHERE
clause that says something which a leaf of the tree says; and the condition is refused as empty when
the rest of the write is in order, the condition compiles and no leaf of it says anything, and never
otherwise. -/
structure Guards (m : Mutation) (c : Condition) (inOrder : Prop) (head : Fragment)
    (result : Except Error Statement) : Prop where
  clause : ∀ s, result = .ok s → ∃ predicate, c.compile m.rendering .and = .ok predicate ∧
    s.sql = head.sql ++ " WHERE " ++ predicate.sql ∧ c.IsSaidIn m.rendering predicate
  refused_iff : result = .error .emptyCondition ↔
    inOrder ∧ (∃ f, c.compile m.rendering .and = .ok f) ∧ ∀ leaf ∈ c.leaves, ¬ leaf.Speaks

theorem guards_under (m : Mutation) (c : Condition) {inOrder : Prop} (head : Fragment)
    (ready : inOrder) : Guards m c inOrder head (m.under head c) where
  clause := by
    intro s made
    unfold under at made
    cases predicate : m.predicate c with
    | error e =>
      rw [predicate] at made
      cases made
    | ok f =>
      rw [predicate] at made
      cases made
      obtain ⟨compiled, full⟩ := predicate_eq_ok_iff.mp predicate
      refine ⟨f, compiled, rfl, ?_⟩
      rcases Condition.isSaidIn_or_silent compiled with ⟨-, said⟩ | ⟨empty, -⟩
      · exact said
      · rw [Fragment.isBlankString_of_isEmpty empty] at full
        cases full
  refused_iff := by
    have refused : m.under head c = .error .emptyCondition ↔
        m.predicate c = .error .emptyCondition := by
      unfold under
      cases m.predicate c <;> simp [Except.map]
    rw [refused, predicate_eq_emptyCondition_iff]
    exact ⟨fun silent => ⟨ready, silent⟩, fun silent => silent.2⟩

theorem guards_error {m : Mutation} {c : Condition} {inOrder : Prop} {head : Fragment} {e : Error}
    (unready : ¬ inOrder) (other : e ≠ .emptyCondition) :
    Guards m c inOrder head (.error e) where
  clause := by
    intro s made
    cases made
  refused_iff := by
    constructor
    · intro same
      cases same
      exact (other rfl).elim
    · rintro ⟨ready, -⟩
      exact (unready ready).elim

/-- Neither an update nor a deletion goes out without a condition that says something. -/
theorem update_delete_guarded (m : Mutation) (changes : Record) (c : Condition) :
    Guards m c (isBlankString m.table = false ∧ changes.isEmpty = false) (m.updateHead changes)
        (m.update changes c) ∧
      Guards m c (isBlankString m.table = false) m.deleteHead (m.delete c) := by
  rw [update_eq, delete_eq]
  cases blank : isBlankString m.table with
  | true =>
    refine ⟨?_, guards_error (by simp) nofun⟩
    split <;> exact guards_error (by simp) nofun
  | false =>
    refine ⟨?_, guards_under m c _ rfl⟩
    cases nothing : changes.isEmpty with
    | true => exact guards_error (by simp) nofun
    | false => exact guards_under m c _ ⟨rfl, rfl⟩

end Mutation

end Clausal
