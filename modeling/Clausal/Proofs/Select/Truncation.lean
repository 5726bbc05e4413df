import Clausal.Proofs.Text.Bytes
import Clausal.Proofs.Text.Search
import Clausal.Select.Querier
import Mathlib.Order.Bounds.Defs
/-!
# Counting the rows of a given text

A given text is counted up to its last limit clause. The keyword is searched in a copy in small
letters, and the text itself is cut at the place of the copy: both have the keyword at the same
bytes, and a character begins there, whatever stands in front of it. The bound values of the
placeholders that are kept are kept, and they are the first ones.
-/

namespace Clausal

open Text (lower lastPosition? prefix_of_lastPosition? not_prefix_of_lastPosition?
  le_of_lastPosition?)
open Text.Utf8 (count_encode encode encode_lower encode_prefix_drop_iff lowerByte size
  size_le_of_prefix size_lower size_pos take_encode)

namespace Statement

/-! ## The place of the cut -/

/-- The keyword of a limit clause begins at this byte, in capital or small letters. -/
def LimitAt (bytes : List UInt8) (p : Nat) : Prop :=
  encode limitWord <+: (bytes.drop p).map lowerByte

/-- The part of a text that is counted: all before the last limit clause, if something stands before
it, or else the whole text. -/
def Counted (text inner : List Char) : Prop :=
  (∃ p, IsGreatest {p | LimitAt (encode text) p} p ∧ 0 < p ∧ encode inner = (encode text).take p) ∨
    ((∀ p, LimitAt (encode text) p → p = 0) ∧ inner = text)

theorem isAscii_of_mem_limitWord {c : Char} (mem : c ∈ limitWord) : Text.IsAscii c := by
  have all : limitWord.all (fun c => decide (c.toNat < 128)) = true := by decide
  have small := List.all_eq_true.mp all c mem
  rwa [decide_eq_true_eq] at small

/-- The keyword begins where a character begins. -/
theorem limitAt_encode_iff {text : List Char} {p : Nat} : LimitAt (encode text) p ↔
    ∃ before after, text = before ++ after ∧ size before = p ∧ limitWord <+: lower after := by
  have full : limitWord ≠ [] := by decide
  rw [LimitAt, List.map_drop, ← encode_lower,
    encode_prefix_drop_iff (fun c => isAscii_of_mem_limitWord) full]
  constructor
  · rintro ⟨before, after, split, place, starts⟩
    obtain ⟨before, after, rfl, rfl, rfl⟩ := List.map_eq_append_iff.mp split
    exact ⟨before, after, rfl, (size_lower before).symm.trans place, starts⟩
  · rintro ⟨before, after, rfl, place, starts⟩
    exact ⟨lower before, lower after, List.map_append, (size_lower before).trans place, starts⟩

theorem isGreatest_limitAt {text : List Char} {i : Nat}
    (found : lastPosition? limitWord (lower text) = some i) :
    IsGreatest {p | LimitAt (encode text) p} (size (text.take i)) := by
  constructor
  · refine limitAt_encode_iff.mpr
      ⟨text.take i, text.drop i, (List.take_append_drop i text).symm, rfl, ?_⟩
    rw [lower, List.map_drop]
    exact (prefix_of_lastPosition? found).1
  · intro p limit
    obtain ⟨before, after, rfl, rfl, starts⟩ := limitAt_encode_iff.mp limit
    have here : limitWord <+: (lower (before ++ after)).drop before.length := by
      rw [lower, ← List.map_drop, List.drop_left]
      exact starts
    have inside : before.length ≤ (lower (before ++ after)).length := by
      simp [lower]
    have earlier := le_of_lastPosition? found here inside
    exact size_le_of_prefix
      (List.prefix_take_iff.mpr ⟨List.prefix_append before after, earlier⟩)

theorem not_limitAt {text : List Char} (missing : lastPosition? limitWord (lower text) = none)
    (p : Nat) : ¬ LimitAt (encode text) p := by
  intro limit
  obtain ⟨before, after, rfl, -, starts⟩ := limitAt_encode_iff.mp limit
  refine not_prefix_of_lastPosition? missing before.length ?_
  rw [lower, ← List.map_drop, List.drop_left]
  exact starts

theorem counted_withoutLimit (text : List Char) : Counted text (withoutLimit text) := by
  unfold withoutLimit
  cases found : lastPosition? limitWord (lower text) with
  | none => exact .inr ⟨fun p limit => absurd limit (not_limitAt found p), rfl⟩
  | some i =>
    have greatest := isGreatest_limitAt found
    cases i with
    | zero => exact .inr ⟨fun p limit => Nat.le_zero.mp (greatest.2 limit), rfl⟩
    | succ i =>
      have inside : i + 1 ≤ text.length := by
        simpa [lower] using (prefix_of_lastPosition? found).2
      have full : text.take (i + 1) ≠ [] := by
        intro empty
        have none : (text.take (i + 1)).length = 0 := by rw [empty, List.length_nil]
        rw [List.length_take] at none
        omega
      exact .inl ⟨_, greatest, size_pos full, (take_encode (List.take_prefix _ text)).symm⟩

/-- Two keywords may share a blank. -/
example : withoutLimit "a LIMIT Limit 1".toList = "a LIMIT".toList := by rfl

theorem withoutLimit_prefix (text : List Char) : withoutLimit text <+: text := by
  unfold withoutLimit
  split
  · exact List.take_prefix _ text
  · exact List.prefix_rfl

/-! ## The values that are kept -/

/-- The bytes at which a text has its placeholders. -/
def marks (text : List Char) : List Nat :=
  (encode text).idxsOf (UInt8.ofNat '?'.toNat)

/-- As many values as there are occurrences in front of a place are those that belong to them. -/
theorem take_count_eq_filter_idxsOf {α β : Type} [BEq α] [LawfulBEq α] (x : α) (xs : List α)
    (values : List β) (start n : Nat) : values.take ((xs.take n).count x) =
      (((xs.idxsOf x start).zip values).filter fun mark => mark.1 < start + n).map Prod.snd := by
  induction xs generalizing values start n with
  | nil => simp
  | cons first xs ih =>
    cases n with
    | zero =>
      have none (mark : Nat × β) (mem : mark ∈ ((first :: xs).idxsOf x start).zip values) :
          ¬ decide (mark.1 < start + 0) = true := by
        have later := List.ge_of_mem_idxsOf mark.1 (List.of_mem_zip mem).1
        simpa using later
      rw [List.filter_eq_nil_iff.mpr none]
      rfl
    | succ n =>
      have bound : start + (n + 1) = start + 1 + n := by omega
      rw [List.take_succ_cons, List.count_cons, List.idxsOf_cons, bound]
      by_cases here : (first == x) = true
      · rw [if_pos here, if_pos here]
        cases values with
        | nil => simp
        | cons value values =>
          have inside : decide (start < start + 1 + n) = true := by
            rw [decide_eq_true_eq]
            omega
          rw [List.take_succ_cons, ih values (start + 1) n, List.zip_cons_cons, List.filter_cons,
            if_pos inside, List.map_cons]
      · rw [if_neg here, if_neg here, Nat.add_zero]
        exact ih values (start + 1) n

theorem take_placeholders_eq_marks {text inner : List Char} (starts : inner <+: text)
    (values : List SqlValue) : values.take (placeholders inner) =
      (((marks text).zip values).filter fun mark => mark.1 < size inner).map Prod.snd := by
  have ascii : Text.IsAscii '?' := by
    unfold Text.IsAscii
    decide
  have front := take_count_eq_filter_idxsOf (UInt8.ofNat '?'.toNat) (encode text) values 0
    (size inner)
  rw [take_encode starts, count_encode ascii, Nat.zero_add] at front
  exact front

theorem placeholders_counting (inner : Statement) :
    placeholders inner.counting.sql.toList = placeholders inner.sql.toList := by
  have front : placeholders "SELECT COUNT(0) FROM ( ".toList = 0 := by decide
  have back : placeholders " ) a".toList = 0 := by decide
  unfold placeholders at *
  rw [sql_counting, String.toList_append, String.toList_append, List.count_append,
    List.count_append, front, back, Nat.zero_add, Nat.add_zero]

end Statement

namespace Querier

open Statement (Counted marks placeholders withoutLimit withoutLimit_prefix)

/-- The rows of a given text are counted up to its last limit clause, with the values of the
placeholders up to there. -/
theorem count_cuts_limit (q : Querier) {given : Statement} (isText : q.query.given = some given)
    (unfiltered : q.hasFilter = false) (full : Text.isBlankString given.sql = false) :
    ∃ inner kept,
      q.countStatement = .ok ⟨"SELECT COUNT(0) FROM ( " ++ inner ++ " ) a", kept⟩ ∧
      Counted given.sql.toList inner.toList ∧
      kept = given.params.take (min (placeholders inner.toList) given.params.length) ∧
      kept = (((marks given.sql.toList).zip given.params).filter fun mark =>
        mark.1 < size inner.toList).map Prod.snd ∧
      (placeholders given.sql.toList = given.params.length →
        placeholders ("SELECT COUNT(0) FROM ( " ++ inner ++ " ) a").toList = kept.length) := by
  have starts := withoutLimit_prefix given.sql.toList
  have same : (String.ofList (withoutLimit given.sql.toList)).toList =
      withoutLimit given.sql.toList := String.toList_ofList
  refine ⟨String.ofList (withoutLimit given.sql.toList),
    given.params.take (placeholders (withoutLimit given.sql.toList)), ?_, ?_, ?_, ?_, ?_⟩
  · have plain : q.query.selection.filter.isNone = true := Option.isSome_eq_false_iff.mp unfiltered
    rw [countStatement, Query.countStatement, isText, plain, Query.givenCount, isText]
    dsimp only [Option.isSome_some, Bool.and_self, if_true]
    rw [Statement.countStatement, full]
    rfl
  · rw [same]
    exact Statement.counted_withoutLimit _
  · rw [same, List.take_eq_take_min]
  · rw [same]
    exact Statement.take_placeholders_eq_marks starts given.params
  · intro bound
    have fewer : placeholders (withoutLimit given.sql.toList) ≤ given.params.length := by
      rw [← bound]
      exact starts.sublist.count_le '?'
    rw [List.length_take, Nat.min_eq_left fewer]
    refine (Statement.placeholders_counting ⟨String.ofList _, []⟩).trans ?_
    exact congrArg placeholders same

/-- The value of the limit goes with the limit, behind a letter of two bytes. -/
theorem count_cuts_limit_accent :
    let q := ((ofText "SELECT 'é' = ? LIMIT ?").bind (.int 1)).bind (.int 5)
    q.query.given = some ⟨"SELECT 'é' = ? LIMIT ?", [.int 1, .int 5]⟩ ∧
      ∃ inner kept,
        q.countStatement = .ok ⟨"SELECT COUNT(0) FROM ( " ++ inner ++ " ) a", kept⟩ ∧
        Counted "SELECT 'é' = ? LIMIT ?".toList inner.toList ∧
        placeholders ("SELECT COUNT(0) FROM ( " ++ inner ++ " ) a").toList = kept.length := by
  intro q
  have isText : q.query.given = some ⟨"SELECT 'é' = ? LIMIT ?", [.int 1, .int 5]⟩ := rfl
  obtain ⟨inner, kept, counting, cut, -, -, bound⟩ :=
    q.count_cuts_limit isText rfl (by decide)
  exact ⟨isText, inner, kept, counting, cut, bound (by decide)⟩

end Querier

end Clausal
