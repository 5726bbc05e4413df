import Clausal.Proofs.Template.Basic
/-!
# Finding the slots again

Where the text of a template holds no question mark of its own, its slots can be found again in the
text with parameters: they are its question marks, in order.
-/

namespace Clausal.Template

/-- No text of the template holds the mark of a placeholder. -/
def Unmarked (t : Template) : Prop :=
  ∀ s, .text s ∈ t → '?' ∉ s.toList

/-- A text with its question marks replaced, one after another, by given texts. -/
def substitute : List Char → List String → List Char
  | [], _ => []
  | c :: rest, fillings =>
    if c = '?' then
      match fillings with
      | [] => c :: substitute rest []
      | filling :: others => filling.toList ++ substitute rest others
    else c :: substitute rest fillings

/-! ## Assembling without question marks -/

theorem unmarked_nil : Unmarked [] := by
  intro s mem
  cases mem

theorem unmarked_ofText {s : String} (absent : '?' ∉ s.toList) : (ofText s).Unmarked := by
  intro s' mem
  cases List.mem_singleton.mp mem
  exact absent

theorem unmarked_slot (v : SqlValue) : Unmarked [.slot v] := by
  intro s mem
  cases List.mem_singleton.mp mem

namespace Unmarked

theorem append {a b : Template} (first : a.Unmarked) (second : b.Unmarked) :
    Unmarked (a ++ b) := by
  intro s mem
  rcases List.mem_append.mp mem with left | right
  · exact first s left
  · exact second s right

theorem intercalate {separator : String} {parts : List Template}
    (between : '?' ∉ separator.toList) (all : ∀ t ∈ parts, t.Unmarked) :
    (Template.intercalate separator parts).Unmarked := by
  induction parts with
  | nil => exact unmarked_nil
  | cons t rest ih =>
    have here := all t (by simp)
    cases rest with
    | nil => exact here
    | cons next others =>
      have later := ih fun t' mem => all t' (List.mem_cons_of_mem _ mem)
      exact (here.append (unmarked_ofText between)).append later

theorem parenthesized {t : Template} (unmarked : t.Unmarked) : t.parenthesized.Unmarked := by
  unfold Template.parenthesized
  split
  · exact unmarked
  · exact ((unmarked_ofText (by decide)).append unmarked).append (unmarked_ofText (by decide))

theorem join {parts : List Template} (logic : Logic) (all : ∀ t ∈ parts, t.Unmarked) :
    (Template.join logic parts).Unmarked := by
  refine intercalate ?_ fun t mem => all t (List.mem_filter.mp mem).1
  cases logic <;> decide

end Unmarked

/-! ## Substituting -/

theorem substitute_append_of_not_mem {s : List Char} (absent : '?' ∉ s) (rest : List Char)
    (fillings : List String) : substitute (s ++ rest) fillings = s ++ substitute rest fillings := by
  induction s with
  | nil => rfl
  | cons c tail ih =>
    rw [List.mem_cons, not_or] at absent
    rw [List.cons_append, List.cons_append, ← ih absent.2]
    simp only [substitute, if_neg (Ne.symm absent.1)]

theorem unmarked_tail {piece : Piece} {rest : Template} (unmarked : Unmarked (piece :: rest)) :
    Unmarked rest :=
  fun s mem => unmarked s (List.mem_cons_of_mem _ mem)

/-- The question marks of the text are as many as the slots. -/
theorem count_render {t : Template} (unmarked : t.Unmarked) :
    (render .parameterized t).sql.toList.count '?' = t.values.length := by
  induction t with
  | nil => rfl
  | cons piece rest ih =>
    rw [render, Fragment.sql_append, String.toList_append, List.count_append,
      ih (unmarked_tail unmarked)]
    cases piece with
    | text s =>
      have absent : '?' ∉ s.toList := unmarked s (by simp)
      have none : (Piece.render .parameterized (.text s)).sql.toList.count '?' = 0 :=
        List.count_eq_zero.mpr absent
      rw [none, Nat.zero_add]
      rfl
    | slot v =>
      have mark : (Piece.render .parameterized (.slot v)).sql = placeholder := rfl
      rw [mark, values, List.length_cons, Nat.add_comm]
      rfl

/-- Replacing them by the literals of what is bound gives the text with literals. -/
theorem substitute_render {t : Template} (unmarked : t.Unmarked) :
    substitute (render .parameterized t).sql.toList
      ((render .parameterized t).params.map SqlValue.literal) =
        (render .inline t).sql.toList := by
  rw [params_render_parameterized]
  induction t with
  | nil => rfl
  | cons piece rest ih =>
    have later := ih (unmarked_tail unmarked)
    rw [render, render, Fragment.sql_append, Fragment.sql_append, String.toList_append,
      String.toList_append, ← later]
    cases piece with
    | text s => exact substitute_append_of_not_mem (unmarked s (by simp)) _ _
    | slot v =>
      have mark : (Piece.render .parameterized (.slot v)).sql.toList = ['?'] := by
        simp [Piece.render, Fragment.ofValue, placeholder]
      rw [values, List.map_cons, List.map_cons, SqlValue.literal_param, mark, List.singleton_append]
      simp only [substitute, if_pos]
      rfl

end Clausal.Template
