/-!
Letter case. Keywords are compared without regard to the case of the letters A to Z; no other
character has a second case here.
-/

namespace Clausal.Text

/-- Capital letters for the letters a to z, all else unchanged. -/
def upper (cs : List Char) : List Char :=
  cs.map Char.toUpper

/-- Small letters for the letters A to Z, all else unchanged. -/
def lower (cs : List Char) : List Char :=
  cs.map Char.toLower

/-- Two texts are the same word when they differ in the case of letters only. -/
def sameWord (a b : List Char) : Bool :=
  lower a == lower b

@[simp] theorem length_upper (cs : List Char) : (upper cs).length = cs.length := by
  simp [upper]

@[simp] theorem length_lower (cs : List Char) : (lower cs).length = cs.length := by
  simp [lower]

theorem sameWord_iff {a b : List Char} : sameWord a b = true ↔ lower a = lower b := by
  simp [sameWord]

end Clausal.Text
