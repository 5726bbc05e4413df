import Clausal.Error
import Clausal.Json.Printer
import Clausal.Text.Numeral
import Clausal.Text.Utf8
/-!
The values that predicates compare with and rows are written from, and the three ways to write one
down: as plain text, as a literal inside a statement, and as a parameter beside it.
-/

namespace Clausal

/-- A value of any kind. Bytes stand for text; a list gives several values to one operator; a JSON
value has no kind of its own in the database and is written as its JSON text. -/
inductive SqlValue where
  | null
  | bool (b : Bool)
  | int (n : Int64)
  | uint (n : UInt64)
  | float (x : Float)
  | text (s : String)
  | bytes (bs : List UInt8)
  | list (items : List SqlValue)
  | json (value : Json)

namespace SqlValue

instance : Inhabited SqlValue := ⟨.null⟩

/-- The name of the kind, as messages give it. -/
def kind : SqlValue → String
  | null => "null"
  | bool _ => "bool"
  | int _ => "int"
  | uint _ => "uint"
  | float _ => "float"
  | text _ => "text"
  | bytes _ => "bytes"
  | list _ => "list"
  | json _ => "json"

/-! ## Plain text -/

/-- Numbers in statements have all digits in their places and never an exponent; whole numbers have
no point. Of two equally near decimals the upper one is written. -/
def floatStyle : Number.FloatStyle where
  tie := .up
  isPositional _ := true
  wholeMark := []
  nan := "NaN"
  infinity := "inf"
  negativeInfinity := "-inf"

-- One tenth, ten to the twentieth and the negative zero, given by their bits.
example : floatStyle.write (Number.Layout.double.datum 0x3FB999999999999A) = "0.1" := by
  decide +kernel
example : floatStyle.write (Number.Layout.double.datum 0x4415AF1D78B58C40) =
    "100000000000000000000" := by decide +kernel
example : floatStyle.write (Number.Layout.double.datum 0x8000000000000000) = "-0" := by
  decide +kernel

/-- The text of a floating-point number. -/
def floatText (x : Float) : String :=
  floatStyle.write (Number.ofFloat x)

mutual

/-- The plain text of a value, neither quoted nor escaped. -/
def plain : SqlValue → String
  | null => ""
  | bool b => if b then "true" else "false"
  | int n => toString n.toInt
  | uint n => toString n.toNat
  | float x => floatText x
  | text s => s
  | bytes bs => Text.Utf8.decodeString bs
  | list items => String.intercalate "," (plainItems items)
  | json value => value.compact

/-- The plain texts of several values. -/
def plainItems : List SqlValue → List String
  | [] => []
  | item :: rest => plain item :: plainItems rest

end

/-! ## Literals -/

/-- The characters that a backslash must precede inside a literal. -/
def needsEscape (c : Char) : Bool :=
  c = '\\' || c = '\'' || c = '"'

/-- A text with its special characters escaped. -/
def escapeChars (cs : List Char) : List Char :=
  cs.flatMap fun c => if needsEscape c then ['\\', c] else [c]

/-- A string with its special characters escaped. -/
def escape (s : String) : String :=
  String.ofList (escapeChars s.toList)

/-- A string as a literal. -/
def quote (s : String) : String :=
  "'" ++ escape s ++ "'"

/-- A value as a literal: numbers bare, truth values as 1 and 0, what is no number as NULL, all else
as quoted text. -/
def literal : SqlValue → String
  | null => "NULL"
  | bool b => if b then "1" else "0"
  | int n => toString n.toInt
  | uint n => toString n.toNat
  | float x => if x.isFinite then floatText x else "NULL"
  | text s => quote s
  | v => quote v.plain

/-! ## Parameters -/

/-- The value that is bound to a placeholder: null, a number or unescaped text. Truth values are
bound as numbers, as they are written in literals. -/
def param : SqlValue → SqlValue
  | null => null
  | bool b => int (if b then 1 else 0)
  | int n => int n
  | uint n => uint n
  | float x => if x.isFinite then float x else null
  | text s => text s
  | v => text v.plain

/-! ## Parts -/

/-- The values of a list, for the operators that take several. -/
def items : SqlValue → Except Error (List SqlValue)
  | list items => .ok items
  | v => .error (.invalidValue ("expected a list of values, got " ++ v.kind))

/-! ## JSON -/

mutual

/-- The value that a JSON value stands for. A whole number is signed wherever it fits, and an object
stays what it is. -/
def ofJson : Json → SqlValue
  | .null => null
  | .bool b => bool b
  | .int n => int n
  | .uint n => ((Text.toInt64? n.toNat).map int).getD (uint n)
  | .float x => float x
  | .string s => text s
  | .array items => list (ofJsonItems items)
  | .object members => json (.object members)

/-- The values that several JSON values stand for. -/
def ofJsonItems : List Json → List SqlValue
  | [] => []
  | item :: rest => ofJson item :: ofJsonItems rest

end

mutual

/-- A value as JSON: bytes are numbers, and what is no number is written as null. -/
def toJson : SqlValue → Json
  | null => .null
  | bool b => .bool b
  | int n => .int n
  | uint n => .uint n
  | float x => .float x
  | text s => .string s
  | bytes bs => .array (bs.map fun b => .uint (UInt64.ofNat b.toNat))
  | list items => .array (toJsonItems items)
  | json value => value

/-- Several values as JSON. -/
def toJsonItems : List SqlValue → List Json
  | [] => []
  | item :: rest => toJson item :: toJsonItems rest

end

/-! ## Equality -/

mutual

/-- Equality of values: values of different kinds differ, a number that is none differs from
itself, and zeros of both signs are equal. -/
def same : SqlValue → SqlValue → Bool
  | null, null => true
  | bool a, bool b => a == b
  | int a, int b => a == b
  | uint a, uint b => a == b
  | float a, float b => a == b
  | text a, text b => a == b
  | bytes a, bytes b => a == b
  | list a, list b => sameItems a b
  | json a, json b => a.same b
  | _, _ => false

/-- Equality value by value. -/
def sameItems : List SqlValue → List SqlValue → Bool
  | [], [] => true
  | a :: as, b :: bs => same a b && sameItems as bs
  | _, _ => false

end

end SqlValue

end Clausal
