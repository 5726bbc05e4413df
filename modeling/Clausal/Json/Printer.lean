import Clausal.Json.Basic
import Clausal.Number.Notation
import Clausal.Text.Quoted
/-!
JSON text. The compact form has no blanks; the indented form puts each item and member on a line of
its own. Strings escape quotes, backslashes and control characters and nothing else.
-/

namespace Clausal.Json

/-- Numbers keep a point; the exponent appears outside the powers from -5 to 15. What is no number
in JSON is null, and of two equally near decimals the even one is written. -/
def floatStyle : Number.FloatStyle where
  tie := .even
  isPositional power := -5 ≤ power && power ≤ 15
  wholeMark := ['.', '0']
  nan := "null"
  infinity := "null"
  negativeInfinity := "null"

-- Ten to the fifteenth, to the sixteenth, to the minus fifth and to the minus sixth, by their bits.
example : floatStyle.write (Number.Layout.double.datum 0x430C6BF526340000) =
    "1000000000000000.0" := by decide +kernel
example : floatStyle.write (Number.Layout.double.datum 0x4341C37937E08000) = "1e+16" := by
  decide +kernel
example : floatStyle.write (Number.Layout.double.datum 0x3EE4F8B588E368F1) = "0.00001" := by
  decide +kernel
example : floatStyle.write (Number.Layout.double.datum 0x3EB0C6F7A0B5ED8D) = "1e-6" := by
  decide +kernel

/-- The text of a floating-point number. -/
def floatText (x : Float) : String :=
  floatStyle.write (Number.ofFloat x)

/-- One character inside the quotes of a string. -/
def escapedChar (c : Char) : List Char :=
  if c = '"' then ['\\', '"']
  else if c = '\\' then ['\\', '\\']
  else if c = '\x08' then ['\\', 'b']
  else if c = '\x0c' then ['\\', 'f']
  else if c = '\n' then ['\\', 'n']
  else if c = '\r' then ['\\', 'r']
  else if c = '\t' then ['\\', 't']
  else if c.toNat < 0x20 then
    ['\\', 'u', '0', '0'] ++ (if c.toNat < 16 then ['0'] else []) ++ Text.hexDigits c.toNat
  else [c]

/-- A string in quotes. -/
def stringText (s : String) : String :=
  String.ofList ('"' :: s.toList.flatMap escapedChar ++ ['"'])

/-! ## Compact form -/

mutual

/-- The text of a value without blanks. -/
def compact : Json → String
  | .null => "null"
  | .bool b => if b then "true" else "false"
  | .int n => toString n.toInt
  | .uint n => toString n.toNat
  | .float x => floatText x
  | .string s => stringText s
  | .array items => "[" ++ String.intercalate "," (compactItems items) ++ "]"
  | .object members => "\x7b" ++ String.intercalate "," (compactMembers members) ++ "\x7d"

/-- The texts of the items. -/
def compactItems : List Json → List String
  | [] => []
  | item :: rest => compact item :: compactItems rest

/-- The texts of the members, names included. -/
def compactMembers : List (String × Json) → List String
  | [] => []
  | (name, value) :: rest => (stringText name ++ ":" ++ compact value) :: compactMembers rest

end

/-! ## Indented form -/

/-- A new line that is indented by two blanks for each level. -/
def lineBreak (level : Nat) : String :=
  String.ofList ('\n' :: List.replicate (2 * level) ' ')

/-- Parts on lines of their own between two brackets; no parts leave the brackets together. -/
def bracketed (level : Nat) (opening closing : String) (parts : List String) : String :=
  if parts.isEmpty then opening ++ closing
  else opening ++ lineBreak (level + 1) ++
    String.intercalate ("," ++ lineBreak (level + 1)) parts ++
    lineBreak level ++ closing

mutual

/-- The text of a value over several lines. -/
def indented (level : Nat) : Json → String
  | .array items => bracketed level "[" "]" (indentedItems (level + 1) items)
  | .object members => bracketed level "\x7b" "\x7d" (indentedMembers (level + 1) members)
  | value => compact value

/-- The texts of the items. -/
def indentedItems (level : Nat) : List Json → List String
  | [] => []
  | item :: rest => indented level item :: indentedItems level rest

/-- The texts of the members, names included. -/
def indentedMembers (level : Nat) : List (String × Json) → List String
  | [] => []
  | (name, value) :: rest =>
    (stringText name ++ ": " ++ indented level value) :: indentedMembers level rest

end

/-- The text of a value over several lines, from the left margin on. -/
def pretty (value : Json) : String :=
  indented 0 value

end Clausal.Json
