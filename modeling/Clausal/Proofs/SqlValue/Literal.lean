import Clausal.Proofs.Number.Numeral
/-!
# Literals

A literal is the word NULL, a numeral or a quoted text, and nothing else; the parameter that is
bound in its place has the same literal.
-/

namespace Clausal.SqlValue

open Number (Numeral)

/-- The text that the literal of a value holds in quotes, if it is quoted. -/
def quotedText? : SqlValue → Option String
  | text s => some s
  | bytes bs => some (bytes bs).plain
  | list items => some (list items).plain
  | json value => some (json value).plain
  | _ => none

/-- What the literal of a value can be. -/
inductive Written (v : SqlValue) : Prop
  | null (bare : v.quotedText? = none) (literal : v.literal = "NULL")
  | numeral (n : Numeral) (bare : v.quotedText? = none) (literal : v.literal.toList = n.text)
  | quoted (s : String) (quotes : v.quotedText? = some s) (literal : v.literal = quote s)

theorem written_float (x : Float) : Written (float x) := by
  cases finite : x.isFinite with
  | true =>
    obtain ⟨n, text⟩ := Number.exists_numeral_of_datum (Number.isFinite_ofFloat finite)
    refine .numeral n rfl ?_
    rw [literal, if_pos finite]
    exact text
  | false =>
    refine .null rfl ?_
    rw [literal, if_neg (by simp [finite])]

theorem written (v : SqlValue) : Written v := by
  cases v with
  | null => exact .null rfl rfl
  | bool b =>
    obtain ⟨n, text⟩ := Number.exists_numeral_of_nat (if b then 1 else 0)
    refine .numeral n rfl ?_
    rw [← text]
    cases b <;> rfl
  | int i =>
    obtain ⟨n, text⟩ := Number.exists_numeral_of_int i.toInt
    exact .numeral n rfl text
  | uint i =>
    obtain ⟨n, text⟩ := Number.exists_numeral_of_nat i.toNat
    exact .numeral n rfl text
  | float x => exact written_float x
  | text s => exact .quoted s rfl rfl
  | bytes bs => exact .quoted _ rfl rfl
  | list items => exact .quoted _ rfl rfl
  | json value => exact .quoted _ rfl rfl

theorem literal_ne_empty (v : SqlValue) : v.literal ≠ "" := by
  cases v.written with
  | null _ literal => simp [literal]
  | numeral n _ literal =>
    intro empty
    rw [empty] at literal
    exact n.text_ne_nil literal.symm
  | quoted s _ literal => simp [literal, quote]

/-- The literal of what is bound is the literal that stands inline. -/
theorem literal_param (v : SqlValue) : v.param.literal = v.literal := by
  cases v with
  | bool b => cases b <;> rfl
  | float x =>
    cases finite : x.isFinite <;> simp [param, literal, finite]
  | _ => rfl

end Clausal.SqlValue
