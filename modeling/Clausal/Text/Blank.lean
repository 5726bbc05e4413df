/-!
Blank characters and trimming. A character is blank when it has the Unicode property White_Space;
trimming takes blanks away at the ends of a text and nowhere else.
-/

namespace Clausal.Text

/-- The code points with the property White_Space, as inclusive ranges in ascending order. -/
def blankRanges : List (Nat × Nat) :=
  [(0x09, 0x0D), (0x20, 0x20), (0x85, 0x85), (0xA0, 0xA0), (0x1680, 0x1680), (0x2000, 0x200A),
   (0x2028, 0x2029), (0x202F, 0x202F), (0x205F, 0x205F), (0x3000, 0x3000)]

/-- A character is blank when one of the ranges holds it. -/
def isBlank (c : Char) : Bool :=
  blankRanges.any fun (low, high) => low ≤ c.toNat && c.toNat ≤ high

/-- A text without its leading blanks. -/
def trimStart (cs : List Char) : List Char :=
  cs.dropWhile isBlank

/-- A text without its trailing blanks. -/
def trimEnd (cs : List Char) : List Char :=
  (cs.reverse.dropWhile isBlank).reverse

/-- A text without the blanks at both ends. -/
def trim (cs : List Char) : List Char :=
  trimEnd (trimStart cs)

/-- A string without the blanks at both ends. -/
def trimmed (s : String) : String :=
  String.ofList (trim s.toList)

/-- A string is blank when it holds nothing but blanks; the empty string is blank. -/
def isBlankString (s : String) : Bool :=
  s.toList.all isBlank

/-! ## Order and size of the table -/

example : (blankRanges.map fun (low, high) => high + 1 - low).sum = 25 := rfl

example : blankRanges.Pairwise fun a b => a.2 < b.1 := by decide

/-! ## Trimming -/

@[simp] theorem trimStart_nil : trimStart [] = [] := rfl

@[simp] theorem trim_nil : trim [] = [] := rfl

theorem trimStart_cons_of_isBlank {c : Char} (cs : List Char) (h : isBlank c = true) :
    trimStart (c :: cs) = trimStart cs := by
  simp [trimStart, h]

theorem trimStart_cons_of_not_isBlank {c : Char} (cs : List Char) (h : isBlank c = false) :
    trimStart (c :: cs) = c :: cs := by
  simp [trimStart, h]

end Clausal.Text
