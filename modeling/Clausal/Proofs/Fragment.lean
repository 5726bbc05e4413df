import Clausal.Fragment
import Clausal.Proofs.SqlValue.Literal
/-!
# Fragments

Fragments form a monoid, and joining them is linking them one by one: `Fragment.link` puts a
connective between two fragments that have text and leaves out one that has none.
-/

namespace Clausal

namespace Fragment

theorem ext {a b : Fragment} (sql : a.sql = b.sql) (params : a.params = b.params) : a = b := by
  cases a
  cases b
  simp_all

/-- Two fragments with a connective between them; one without text is left out. -/
def link (logic : Logic) (a b : Fragment) : Fragment :=
  if a.isEmpty then b
  else if b.isEmpty then a
  else a ++ ofText (" " ++ logic.keyword ++ " ") ++ b

theorem isEmpty_iff {f : Fragment} : f.isEmpty = true ↔ f.sql = "" := by
  simp [isEmpty]

theorem append_assoc (a b c : Fragment) : a ++ b ++ c = a ++ (b ++ c) :=
  ext String.append_assoc (List.append_assoc _ _ _)

theorem empty_append (f : Fragment) : {} ++ f = f :=
  ext (by simp) (by simp)

theorem append_empty (f : Fragment) : f ++ {} = f :=
  ext (by simp) (by simp)

theorem isEmpty_append (a b : Fragment) : (a ++ b).isEmpty = (a.isEmpty && b.isEmpty) := by
  rw [Bool.eq_iff_iff]
  simp [isEmpty_iff]

/-- A value always becomes text. -/
theorem isEmpty_ofValue (mode : Mode) (v : SqlValue) : (ofValue mode v).isEmpty = false := by
  cases mode with
  | inline => simpa [isEmpty, ofValue] using v.literal_ne_empty
  | parameterized => rfl

theorem isEmpty_parenthesized (f : Fragment) : f.parenthesized.isEmpty = f.isEmpty := by
  unfold parenthesized
  cases empty : f.isEmpty with
  | true => simp [empty]
  | false => simp [isEmpty_append, empty]

theorem isEmpty_link (logic : Logic) (a b : Fragment) :
    (link logic a b).isEmpty = (a.isEmpty && b.isEmpty) := by
  unfold link
  cases first : a.isEmpty with
  | true => simp
  | false =>
    cases second : b.isEmpty with
    | true => simp [first]
    | false => simp [isEmpty_append, first]

theorem infix_parenthesized (f : Fragment) : f.sql.toList <:+: f.parenthesized.sql.toList := by
  unfold parenthesized
  split
  · exact List.infix_rfl
  · exact ⟨['('], [')'], by simp⟩

theorem infix_link_left (logic : Logic) (a b : Fragment) :
    a.sql.toList <:+: (link logic a b).sql.toList := by
  unfold link
  split
  next empty => simp [isEmpty_iff.mp empty]
  next =>
    split
    · exact List.infix_rfl
    · exact ⟨[], (" " ++ logic.keyword ++ " ").toList ++ b.sql.toList, by simp⟩

theorem infix_link_right (logic : Logic) (a b : Fragment) :
    b.sql.toList <:+: (link logic a b).sql.toList := by
  unfold link
  split
  · exact List.infix_rfl
  · split
    next empty => simp [isEmpty_iff.mp empty]
    next => exact ⟨a.sql.toList ++ (" " ++ logic.keyword ++ " ").toList, [], by simp⟩

theorem isEmpty_intercalate {separator : String} (parts : List Fragment)
    (full : ∀ part ∈ parts, part.isEmpty = false) :
    (intercalate separator parts).isEmpty = parts.isEmpty := by
  cases parts with
  | nil => rfl
  | cons part rest =>
    have here := full part (by simp)
    cases rest with
    | nil => simpa [intercalate] using here
    | cons next rest => simp [intercalate, isEmpty_append, here]

theorem sql_intercalate (separator : String) (parts : List Fragment) :
    (intercalate separator parts).sql = separator.intercalate (parts.map Fragment.sql) := by
  induction parts with
  | nil => simp [intercalate]
  | cons part rest ih =>
    cases rest with
    | nil => simp [intercalate]
    | cons next others =>
      rw [intercalate, sql_append, sql_append, sql_ofText, ih]
      · exact String.intercalate_cons_cons.symm
      · simp

theorem toList_intercalate (separator : String) (parts : List Fragment) :
    (intercalate separator parts).sql.toList =
      separator.toList.intercalate (parts.map fun f => f.sql.toList) := by
  induction parts with
  | nil => rfl
  | cons part rest ih =>
    cases rest with
    | nil => simp [intercalate]
    | cons next others =>
      rw [intercalate, sql_append, sql_append, String.toList_append, String.toList_append, ih]
      · exact (List.intercalate_cons_cons ..).symm
      · simp

theorem params_intercalate (separator : String) (parts : List Fragment) :
    (intercalate separator parts).params = parts.flatMap Fragment.params := by
  induction parts with
  | nil => rfl
  | cons part rest ih =>
    cases rest with
    | nil => simp [intercalate]
    | cons next others =>
      rw [intercalate, params_append, params_append, ih, params_ofText, List.append_nil]
      · rfl
      · simp

/-- Joining is linking from the right. -/
theorem join_cons (logic : Logic) (part : Fragment) (rest : List Fragment) :
    join logic (part :: rest) = link logic part (join logic rest) := by
  unfold join link
  cases here : part.isEmpty with
  | true => simp [here]
  | false =>
    have full : ∀ f ∈ rest.filter (!·.isEmpty), f.isEmpty = false := by simp
    rw [isEmpty_intercalate _ full]
    cases kept : rest.filter (!·.isEmpty) with
    | nil => simp [here, kept, intercalate]
    | cons next others => simp [here, kept, intercalate]

theorem link_empty_left (logic : Logic) (f : Fragment) : link logic {} f = f :=
  rfl

/-- It does not matter where linking begins. -/
theorem link_assoc (logic : Logic) (a b c : Fragment) :
    link logic (link logic a b) c = link logic a (link logic b c) := by
  cases first : a.isEmpty with
  | true => simp [link, first]
  | false =>
    cases second : b.isEmpty with
    | true => simp [link, first, second]
    | false =>
      cases third : c.isEmpty with
      | true => simp [link, first, second, third, isEmpty_append]
      | false => simp [link, first, second, third, isEmpty_append, append_assoc]

theorem isEmpty_join (logic : Logic) (parts : List Fragment) :
    (join logic parts).isEmpty = parts.all Fragment.isEmpty := by
  induction parts with
  | nil => rfl
  | cons part rest ih => rw [join_cons, isEmpty_link, ih, List.all_cons]

theorem join_append (logic : Logic) (parts others : List Fragment) :
    join logic (parts ++ others) = link logic (join logic parts) (join logic others) := by
  induction parts with
  | nil => exact (link_empty_left logic _).symm
  | cons part rest ih => rw [List.cons_append, join_cons, ih, join_cons, link_assoc]

/-- What has been joined may be joined again on its own. -/
theorem join_join (logic : Logic) (parts : List Fragment) :
    join logic [join logic parts] = join logic parts := by
  have again := join_append logic parts []
  rw [List.append_nil] at again
  rw [join_cons]
  exact again.symm

/-- So may the parts, one by one, before they are joined. -/
theorem join_map_join (logic : Logic) (parts : List Fragment) :
    join logic (parts.map fun part => join logic [part]) = join logic parts := by
  induction parts with
  | nil => rfl
  | cons part rest ih =>
    rw [List.map_cons, join_cons, ih, ← join_append]
    rfl

theorem join_filter (logic : Logic) (parts : List Fragment) :
    join logic (parts.filter (!·.isEmpty)) = join logic parts := by
  simp [join]

end Fragment

end Clausal
