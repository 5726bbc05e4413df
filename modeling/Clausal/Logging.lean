import Clausal.Error
import Clausal.Text.Blank
import Clausal.Text.Case
import Clausal.Text.Numeral
import Clausal.Text.Word
/-!
Log filters. A filter is a list of directives with commas between them, each a level, or a target
with a level of its own. A target may narrow down to a span in brackets, and that to fields in
braces.
-/

namespace Clausal.Logging

/-- Why a filter is refused. -/
inductive Fault where
  /-- A directive is malformed. -/
  | directive
  /-- What stands for a level is none. -/
  | level
deriving DecidableEq

/-- The message of a fault. -/
def Fault.message : Fault → String
  | directive => "invalid filter directive"
  | level => "error parsing level filter: expected one of \"off\", \"error\", \"warn\", " ++
      "\"info\", \"debug\", \"trace\", or a number 0-5"

/-- The names of the levels. -/
def levelNames : List String :=
  ["off", "error", "warn", "info", "debug", "trace"]

/-- Whether a text is a level: a name in letters of any case, a number from 0 to 5, or nothing. -/
def isLevel (cs : List Char) : Bool :=
  cs.isEmpty || levelNames.any (fun name => Text.sameWord name.toList cs) ||
    ((Text.readUInt64? cs).map fun n => decide (n ≤ 5)).getD false

/-- The text after a span, from behind its opening bracket. Fields need at least one character. -/
def afterSpan? (cs : List Char) : Option (List Char) :=
  match cs.dropWhile fun c => c != ']' && c != '\x7b' with
  | ']' :: r => some r
  | '\x7b' :: '\x7d' :: _ => none
  | '\x7b' :: r =>
    match r.dropWhile (· != '\x7d') with
    | '\x7d' :: ']' :: r => some r
    | _ => none
  | _ => none

/-- Checks what follows a target or a span: nothing, or a level. -/
def checkLevel : List Char → Except Fault Unit
  | [] => .ok ()
  | c :: level =>
    if c != '=' then .error .directive else if isLevel level then .ok () else .error .level

/-- Checks a directive from its first character on. -/
def checkFrom : List Char → Except Fault Unit
  | [] => .error .directive
  | '[' :: r =>
    match afterSpan? r with
    | some r => checkLevel r
    | none => .error .directive
  | c :: r =>
    if c = '-' ∨ c = ':' ∨ c = '_' ∨ Text.isWordChar c then
      match r.dropWhile fun c => c != '=' && c != '[' with
      | '[' :: r =>
        match afterSpan? r with
        | some r => checkLevel r
        | none => .error .directive
      | r => checkLevel r
    else .error .directive

/-- Checks a directive. Blanks around it are passed over, but not those around one with a level. -/
def checkDirective (cs : List Char) : Except Fault Unit := do
  checkFrom (Text.trim cs)
  if cs.contains '=' ∧ Text.trim cs ≠ cs then .error .level else .ok ()

/-- Checks a filter. Empty directives say nothing. -/
def checkFilter (filter : String) : Except Fault Unit :=
  ((filter.toList.splitOn ',').filter (!·.isEmpty)).forM checkDirective

/-- Accepts the filter to log by: that of the environment if it is there and well-formed, else the
configured one. -/
def check (environment : Option String) (configured : String) : Except Error Unit :=
  if (environment.map fun filter => (checkFilter filter).isOk).getD false then .ok ()
  else
    match checkFilter configured with
    | .ok () => .ok ()
    | .error fault => .error (.configuration
        ("invalid log level '" ++ configured ++ "': " ++ fault.message))

end Clausal.Logging
