import Clausal.Calendar
import Clausal.Number.Scientific
import Clausal.SqlValue.Basic
/-!
Values made from other kinds of data. Dates and times become text; a short floating-point number
keeps its shortest decimal text, so that 0.1 stays 0.1.
-/

namespace Clausal.SqlValue

/-- The text of a floating-point number of 32 bits. -/
def float32Text (x : Float32) : String :=
  floatStyle.write (Number.ofFloat32 x)

/-- A number of 32 bits: the number of 64 bits that its text stands for. -/
def ofFloat32 (x : Float32) : SqlValue :=
  float ((Number.readFloat? (float32Text x).toList).getD x.toFloat)

/-- A number that may be missing. -/
def ofInt? (n : Option Int64) : SqlValue :=
  (n.map int).getD null

/-- A day. -/
def ofDate (d : Calendar.Date) : SqlValue :=
  text d.text

/-- A time of day. -/
def ofTime (t : Calendar.Time) : SqlValue :=
  text t.text

/-- A day and a time of it. -/
def ofDateTime (d : Calendar.Date) (t : Calendar.Time) : SqlValue :=
  text (Calendar.dateTimeText d t)

/-- An instant, in seconds since the start of 1970. -/
def ofInstant (seconds : Int) (nanosecond : Nat) : SqlValue :=
  text (Calendar.instantText seconds nanosecond)

end Clausal.SqlValue
