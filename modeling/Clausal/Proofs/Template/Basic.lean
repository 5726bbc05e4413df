import Clausal.Proofs.Fragment
/-!
# Templates

A template is a statement before the mode is chosen: text, with a slot wherever a value is written.
Rendering it inline puts the literal of the value into a slot; rendering it with parameters puts a
placeholder there and binds the value. So the two renderings differ at the slots only, and the
first is the second with its slots filled by the literals of what is bound, from left to right.
-/

namespace Clausal

inductive Piece where
  | text (s : String)
  | slot (v : SqlValue)

/-- Text with slots for values. -/
abbrev Template := List Piece

namespace Piece

def render (mode : Mode) : Piece → Fragment
  | .text s => .ofText s
  | .slot v => .ofValue mode v

/-- Whether a piece is no text at all. A slot always becomes text. -/
def isEmpty : Piece → Bool
  | .text s => s.isEmpty
  | .slot _ => false

end Piece

namespace Template

/-- The fragment that a template becomes in a mode. -/
def render (mode : Mode) : Template → Fragment
  | [] => {}
  | piece :: rest => piece.render mode ++ render mode rest

/-- The values in the slots. -/
def values : Template → List SqlValue
  | [] => []
  | .text _ :: rest => values rest
  | .slot v :: rest => v :: values rest

/-- The text with its slots filled, one after another, with given texts. -/
def fill : Template → List String → String
  | [], _ => ""
  | .text s :: rest, fillings => s ++ fill rest fillings
  | .slot _ :: rest, [] => fill rest []
  | .slot _ :: rest, filling :: fillings => filling ++ fill rest fillings

def isEmpty (t : Template) : Bool :=
  t.all Piece.isEmpty

/-! ## Assembling templates, as fragments are assembled -/

def ofText (s : String) : Template := [.text s]

def intercalate (separator : String) : List Template → Template
  | [] => []
  | [t] => t
  | t :: rest => t ++ ofText separator ++ intercalate separator rest

def parenthesized (t : Template) : Template :=
  if t.isEmpty then t else ofText "(" ++ t ++ ofText ")"

def join (logic : Logic) (parts : List Template) : Template :=
  intercalate (" " ++ logic.keyword ++ " ") (parts.filter (!·.isEmpty))

end Template

namespace Template

/-! ## Rendering goes through -/

theorem render_append (mode : Mode) (a b : Template) :
    render mode (a ++ b) = render mode a ++ render mode b := by
  induction a with
  | nil => exact (Fragment.empty_append _).symm
  | cons piece rest ih =>
    rw [List.cons_append, render, render, ih, Fragment.append_assoc]

theorem render_ofText (mode : Mode) (s : String) : render mode (ofText s) = .ofText s :=
  Fragment.append_empty _

theorem render_slot (mode : Mode) (v : SqlValue) : render mode [.slot v] = .ofValue mode v :=
  Fragment.append_empty _

theorem isEmpty_render (mode : Mode) (t : Template) : (render mode t).isEmpty = t.isEmpty := by
  induction t with
  | nil => rfl
  | cons piece rest ih =>
    have first : (piece.render mode).isEmpty = piece.isEmpty := by
      cases piece with
      | text s => rfl
      | slot v => exact Fragment.isEmpty_ofValue mode v
    rw [render, Fragment.isEmpty_append, first, ih]
    rfl

theorem render_intercalate (mode : Mode) (separator : String) (parts : List Template) :
    render mode (intercalate separator parts) =
      Fragment.intercalate separator (parts.map (render mode)) := by
  induction parts with
  | nil => rfl
  | cons t rest ih =>
    cases rest with
    | nil => rfl
    | cons next others =>
      rw [intercalate, render_append, render_append, render_ofText, ih]
      · rfl
      · simp

theorem render_parenthesized (mode : Mode) (t : Template) :
    render mode t.parenthesized = (render mode t).parenthesized := by
  unfold parenthesized Fragment.parenthesized
  rw [isEmpty_render]
  split
  · rfl
  · rw [render_append, render_append, render_ofText, render_ofText]

theorem render_join (mode : Mode) (logic : Logic) (parts : List Template) :
    render mode (join logic parts) = Fragment.join logic (parts.map (render mode)) := by
  unfold join Fragment.join
  have kept : (parts.map (render mode)).filter (!·.isEmpty) =
      (parts.filter (!·.isEmpty)).map (render mode) := by
    rw [List.filter_map]
    congr 2
    funext t
    simp [isEmpty_render]
  rw [render_intercalate, kept]

/-! ## Both renderings -/

theorem params_render_inline (t : Template) : (render .inline t).params = [] := by
  induction t with
  | nil => rfl
  | cons piece rest ih =>
    rw [render, Fragment.params_append, ih]
    cases piece <;> rfl

theorem params_render_parameterized (t : Template) :
    (render .parameterized t).params = t.values.map SqlValue.param := by
  induction t with
  | nil => rfl
  | cons piece rest ih =>
    rw [render, Fragment.params_append, ih]
    cases piece <;> rfl

/-- The text with parameters is the template with every slot filled with a placeholder. -/
theorem sql_render_parameterized (t : Template) :
    (render .parameterized t).sql = t.fill (t.values.map fun _ => placeholder) := by
  induction t with
  | nil => rfl
  | cons piece rest ih =>
    rw [render, Fragment.sql_append, ih]
    cases piece <;> rfl

/-- The text with literals is the template with its slots filled, from left to right, with the
literals of what is bound. -/
theorem sql_render_inline (t : Template) : (render .inline t).sql =
    t.fill ((render .parameterized t).params.map SqlValue.literal) := by
  rw [params_render_parameterized]
  induction t with
  | nil => rfl
  | cons piece rest ih =>
    rw [render, Fragment.sql_append, ih]
    cases piece with
    | text s => rfl
    | slot v =>
      rw [values, List.map_cons, List.map_cons, fill, SqlValue.literal_param]
      rfl

end Template

end Clausal
