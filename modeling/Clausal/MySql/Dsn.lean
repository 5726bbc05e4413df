import Clausal.MySql.Failure
/-!
Names of data sources. Such a name is a URL; one without a scheme stands for nothing.
-/

namespace Clausal.MySql.Dsn

/-- Characters that are passed over at both ends of a URL. -/
def isPadding (c : Char) : Bool :=
  c.toNat ≤ 0x20

/-- Characters that are passed over anywhere in a URL. -/
def isIgnored (c : Char) : Bool :=
  c = '\t' || c = '\n' || c = '\r'

/-- Characters of a scheme after its first letter. -/
def isSchemeChar (c : Char) : Bool :=
  c.isAlphanum || c = '+' || c = '-' || c = '.'

/-- Whether a text starts with a scheme and a colon. -/
def hasScheme (cs : List Char) : Bool :=
  match (cs.dropWhile isPadding).filter (!isIgnored ·) with
  | [] => false
  | c :: r => c.isAlpha && (r.dropWhile isSchemeChar).head? == some ':'

/-- Refuses a name that is no URL. -/
def check (dsn : String) : Except Failure Unit :=
  if hasScheme dsn.toList then .ok () else .error (.configuration "relative URL without a base")

end Clausal.MySql.Dsn
