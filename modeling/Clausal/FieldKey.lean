import Clausal.Error
import Clausal.Identifier
import Clausal.MatchOp
import Clausal.Text.Case
import Clausal.Text.Utf8
/-!
Field keys: a field name and, after a blank, an operator. The first space ends the name; the rest is
the operator in any case, its words apart by spaces, tabs and line ends. No operator means equality.
-/

namespace Clausal

/-- A field key taken apart. The name may be dotted; it holds no backticks. -/
structure FieldKey where
  field : String
  op : MatchOp
deriving DecidableEq

namespace FieldKey

open Clausal.Text

/-- The blanks that may stand around the words of an operator. -/
def isSeparator (c : Char) : Bool :=
  c = ' ' || c = '\t' || c = '\r' || c = '\n'

/-- The blanks that may not. -/
def isStray (c : Char) : Bool :=
  isBlank c && !isSeparator c

/-- The words of a text. -/
def words (cs : List Char) : List (List Char) :=
  (cs.splitOnP isSeparator).filter (!·.isEmpty)

/-- An operator as it is looked up: capital letters and single spaces. -/
def normalized (cs : List Char) : List Char :=
  upper (List.intercalate [' '] (words cs))

/-- Reads the operator of a key, given the size of the whole key in bytes. A stray blank is reported
where it stands, together with all that follows. -/
def readOp (keySize : Nat) (cs : List Char) : Except Error MatchOp :=
  match cs.dropWhile (!isStray ·) with
  | [] =>
    match normalized cs with
    | [] => .ok .equal
    | symbol =>
      match MatchOp.ofSymbol? (String.ofList symbol) with
      | some op => .ok op
      | none => .error (.unsupportedOperator (String.ofList symbol))
  | trailing =>
    .error (.malformedKey (keySize - Utf8.size trailing)
      ("Unexpected trailing content: '" ++ String.ofList trailing ++ "'"))

/-- Takes a field key apart. -/
def read (key : String) : Except Error FieldKey :=
  let text := trimStart key.toList
  let name := text.takeWhile (· != ' ')
  let field := Identifier.dropBackticks name
  if name.isEmpty then .error (.malformedKey 0 "Empty field key")
  else if field.isEmpty then
    .error (.malformedKey 0 ("Empty field name in key '" ++ key ++ "'"))
  else do
    let op ← readOp (Utf8.size key.toList) ((text.dropWhile (· != ' ')).drop 1)
    return ⟨String.ofList field, op⟩

end FieldKey

end Clausal
