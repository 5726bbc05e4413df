/-!
Words in a text: at its front, and the last occurrence, overlapping ones included. Positions count
characters.
-/

namespace Clausal.Text

/-- The text after a word, if it starts with it. -/
def afterWord? (word cs : List Char) : Option (List Char) :=
  if word.isPrefixOf cs then some (cs.drop word.length) else none

/-- The greatest position at which the word starts, if it occurs at all. -/
def lastPosition? (word : List Char) : List Char → Option Nat
  | [] => if word.isEmpty then some 0 else none
  | c :: cs =>
    match lastPosition? word cs with
    | some i => some (i + 1)
    | none => if word.isPrefixOf (c :: cs) then some 0 else none

/-- The text after the last occurrence of the word, if it occurs at all. -/
def afterLast? (word cs : List Char) : Option (List Char) :=
  (lastPosition? word cs).map fun i => cs.drop (i + word.length)

end Clausal.Text
