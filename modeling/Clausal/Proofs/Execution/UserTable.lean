import Clausal.Execution.UserTable
import Clausal.Proofs.Steps
import Clausal.Proofs.Text.Numeral
import Clausal.Proofs.Text.Search
import Clausal.Proofs.Text.Trim
import Clausal.Select.Count
/-!
# What a table of users answers

A counting statement is answered with the number of users. A statement that ends in a limit clause
is answered with the users in its window: the two numbers of the clause are read back as they were
written, whatever stands in front of it.
-/

namespace Clausal

namespace UserTable

open Text

/-- A user as a row of an answer. -/
def record (i : Nat) : Row := ⟨["id", "name"], row i⟩

/-- A limit clause, as it is written. -/
def limitText (offset size : UInt64) : String :=
  " LIMIT " ++ toString offset.toNat ++ ", " ++ toString size.toNat

/-- Behind the keyword stand digits, a comma, a blank and digits. -/
theorem toList_limitText (offset size : UInt64) : (limitText offset size).toList =
    limitWord ++ (Nat.toDigits 10 offset.toNat ++ ',' :: ' ' :: Nat.toDigits 10 size.toNat) := by
  have keyword : " LIMIT ".toList = limitWord := rfl
  have between : ", ".toList = [',', ' '] := by decide
  simp only [limitText, String.toList_append, toList_toString, keyword, between, List.append_assoc]
  rfl

/-- The keyword does not occur behind its own first character. -/
theorem lastPosition?_limit (offset size : UInt64) :
    lastPosition? limitWord ("LIMIT ".toList ++
      (Nat.toDigits 10 offset.toNat ++ ',' :: ' ' :: Nat.toDigits 10 size.toNat)) = none := by
  have digits (n : Nat) : 'L' ∉ Nat.toDigits 10 n := by
    intro mem
    cases isDigit_toDigits n 'L' mem
  have absent : 'L' ∉ "IMIT ".toList ++
      (Nat.toDigits 10 offset.toNat ++ ',' :: ' ' :: Nat.toDigits 10 size.toNat) := by
    simp [digits]
  have mem : 'L' ∈ limitWord := by decide
  have later := lastPosition?_eq_none mem absent
  -- The keyword begins with a blank, so not at this L, and it needs an L further on.
  change lastPosition? limitWord ('L' :: ("IMIT ".toList ++ _)) = none
  have apart : ¬ limitWord.isPrefixOf ('L' :: ("IMIT ".toList ++
      (Nat.toDigits 10 offset.toNat ++ ',' :: ' ' :: Nat.toDigits 10 size.toNat))) = true := by
    have blank : limitWord = ' ' :: "LIMIT ".toList := by decide
    rw [blank]
    simp
  rw [lastPosition?, later]
  exact if_neg apart

/-- The window of a statement is read from the limit clause at its end. -/
theorem window?_limit (front : List Char) (offset size : UInt64) :
    window? (front ++ (limitText offset size).toList) = some (offset, size) := by
  have clause : afterLast? limitWord (front ++ (limitText offset size).toList) =
      some (Nat.toDigits 10 offset.toNat ++ ',' :: ' ' :: Nat.toDigits 10 size.toNat) := by
    rw [toList_limitText, ← List.append_assoc]
    exact afterLast?_append (lastPosition?_limit offset size) front
  have number : ∀ c ∈ Nat.toDigits 10 offset.toNat, (c != ',') = true := by
    intro c mem
    rw [bne_iff_ne]
    rintro rfl
    cases isDigit_toDigits offset.toNat ',' mem
  have behind : trim (' ' :: Nat.toDigits 10 size.toNat) = Nat.toDigits 10 size.toNat := by
    rw [trim, trimStart_cons_of_isBlank _ (by decide)]
    exact trim_eq_self (isBlank_toDigits size.toNat)
  rw [window?, clause, Option.bind_some, List.dropWhile_append_of_pos number,
    List.takeWhile_append_of_pos number]
  simp [trim_eq_self (isBlank_toDigits offset.toNat), behind, readUInt64?_toDigits]

/-- A statement that does not count is answered with the users in its window. The end of the window
is computed without going over the greatest number, which no table is larger than. -/
theorem reply_limit (rows offset size : UInt64) {front : String} (params : List SqlValue)
    (fetches : ¬ countWord <+: (front ++ limitText offset size).toList) :
    reply rows ⟨front ++ limitText offset size, params⟩ = .ofRows ["id", "name"]
      ((List.range' offset.toNat (min (offset.toNat + size.toNat) rows.toNat - offset.toNat)).map
        row) := by
  have window := window?_limit front.toList offset size
  rw [← String.toList_append] at window
  have fetches' : ¬ countWord.isPrefixOf (front ++ limitText offset size).toList = true :=
    fun counts => fetches (List.isPrefixOf_iff_prefix.mp counts)
  have stop : (min (Saturating.add offset size) rows).toNat =
      min (offset.toNat + size.toNat) rows.toNat := by
    have bound := Saturating.toNat_le_greatest rows
    rw [Saturating.toNat_min, Saturating.toNat_add]
    omega
  simp only [reply, if_neg fetches', window, Option.getD_some, stop]

/-- A statement that does not count and names no window is answered with all users. -/
theorem reply_unlimited (rows : UInt64) {s : Statement} (fetches : ¬ countWord <+: s.sql.toList)
    (unlimited : ¬ limitWord <:+: s.sql.toList) :
    reply rows s = .ofRows ["id", "name"] ((List.range rows.toNat).map row) := by
  have window : window? s.sql.toList = none := by
    rw [window?, afterLast?, lastPosition?_of_not_infix unlimited]
    rfl
  have fetches' : ¬ countWord.isPrefixOf s.sql.toList = true :=
    fun counts => fetches (List.isPrefixOf_iff_prefix.mp counts)
  have stop : (min (Saturating.add 0 rows) rows).toNat = rows.toNat := by
    have bound := Saturating.toNat_le_greatest rows
    have zero : (0 : UInt64).toNat = 0 := rfl
    rw [Saturating.toNat_min, Saturating.toNat_add, zero]
    omega
  simp only [reply, if_neg fetches', window, Option.getD_none, stop, List.range_eq_range']
  rfl

/-- A statement that begins like a count is answered with the number of users, whatever window it
names. -/
theorem reply_of_countWord (rows : UInt64) {s : Statement} (counts : countWord <+: s.sql.toList) :
    reply rows s = .ofRows ["COUNT(0)"] [[toString rows.toNat]] :=
  if_pos (List.isPrefixOf_iff_prefix.mpr counts)

/-- A counting statement is answered with the number of users. -/
theorem count_reply (rows : UInt64) (s : Statement) :
    (reply rows s.counting).count = .ok rows := by
  have opening : "SELECT COUNT(0) FROM ( ".toList = countWord ++ " FROM ( ".toList := by rfl
  have text : s.counting.sql.toList =
      countWord ++ (" FROM ( ".toList ++ (s.sql.toList ++ " ) a".toList)) := by
    simp only [Statement.sql_counting, String.toList_append, opening, List.append_assoc]
  have answer := reply_of_countWord rows (s := s.counting) ⟨_, text.symm⟩
  have cell : readUInt64? (trim (toString rows.toNat).toList) = some rows := by
    rw [toList_toString, trim_eq_self (isBlank_toDigits rows.toNat), readUInt64?_toDigits]
  rw [answer]
  simp only [QueryResult.count, QueryResult.ofRows, List.map_cons, List.head?_cons,
    Option.bind_some, Row.first?, cell]

/-- A table counts first and fetches second. -/
theorem page_executor {rows : UInt64} {counting : Statement}
    (counted : (reply rows counting).count = .ok rows) (fetching : Statement)
    (log : List Statement) : (executor rows).page counting fetching log =
      (.ok (rows, reply rows fetching), log ++ [counting] ++ [fetching]) := by
  have first : (executor rows).count counting log = (.ok rows, log ++ [counting]) := by
    rw [← counted]
    rfl
  change Run.page (executor rows).count (executor rows).query counting fetching log = _
  rw [Run.page, bind_apply, first]
  rfl

end UserTable

end Clausal
