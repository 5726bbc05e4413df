import Clausal.Proofs.SqlValue.Literal
import Clausal.Proofs.Text.Numeral
import Clausal.Proofs.Text.Parser
/-!
# Literals read back

A literal denotes what the parameter denotes that is bound in its place: null, the same integer or
the same text. The server reads a literal off the front of a text. A word or a number ends where no
letter, no digit and no dot goes on, and a quoted text where no other quote stands behind its quote;
so a literal is read in full, and nothing of what follows it.
-/

namespace Clausal

open Text (Parser)

namespace Sql

/-- What a literal denotes. -/
inductive Datum where
  | null
  | integer (n : Int)
  | text (content : List Char)
deriving DecidableEq

/-! ## The reader -/

/-- The content of a quoted text whose first quote has been read, and what stands behind its last
one. A backslash makes the next character part of the text, and so does a quote before a quote. -/
def readQuoted : List Char → Option (List Char × List Char)
  | [] => none
  | '\\' :: c :: rest => (readQuoted rest).map fun (content, behind) => (c :: content, behind)
  | '\'' :: '\'' :: rest =>
    (readQuoted rest).map fun (content, behind) => ('\'' :: content, behind)
  | '\'' :: rest => some ([], rest)
  | c :: rest => (readQuoted rest).map fun (content, behind) => (c :: content, behind)

/-- Whether a word or a number goes on. What counts as a letter depends on the server. -/
def goesOn (isLetter : Char → Bool) (cs : List Char) : Bool :=
  cs.head?.any fun c => isLetter c || c.isDigit || c == '.'

/-- What has been read, if it ends here. -/
def ending {α : Type} (isLetter : Char → Bool) : α × List Char → Option (α × List Char)
  | (a, rest) => if goesOn isLetter rest then none else some (a, rest)

/-- The number that decimal digits stand for. -/
def readUnsigned (isLetter : Char → Bool) (cs : List Char) : Option (Nat × List Char) := do
  let (digits, rest) ← (Parser.takeWhile1 Char.isDigit).run cs
  ending isLetter (Nat.ofDigitChars 10 digits 0, rest)

/-- A literal at the front of a text, and what stands behind it. -/
def readLiteral (isLetter : Char → Bool) : List Char → Option (Datum × List Char)
  | '\'' :: cs => (readQuoted cs).map fun (content, rest) => (.text content, rest)
  | 'N' :: 'U' :: 'L' :: 'L' :: cs => ending isLetter (.null, cs)
  | '-' :: cs => (readUnsigned isLetter cs).map fun (n, rest) => (.integer (-n), rest)
  | cs => (readUnsigned isLetter cs).map fun (n, rest) => (.integer n, rest)

-- A quote can also be written twice.
example : readLiteral Char.isAlpha "'it''s' x".toList =
    some (.text "it's".toList, " x".toList) := by
  rfl

/-- A text that can stand behind a literal: it begins with no quote, no letter, no digit and no
dot. -/
def Follows (isLetter : Char → Bool) (rest : List Char) : Prop :=
  ∀ c, rest.head? = some c → c ≠ '\'' ∧ isLetter c = false ∧ c.isDigit = false ∧ c ≠ '.'

variable {isLetter : Char → Bool} {rest : List Char}

theorem Follows.goesOn_eq (follows : Follows isLetter rest) : goesOn isLetter rest = false := by
  cases rest with
  | nil => rfl
  | cons c rest =>
    obtain ⟨-, letter, digit, dot⟩ := follows c rfl
    simp [goesOn, letter, digit, dot]

theorem Follows.ending_eq {α : Type} (follows : Follows isLetter rest) (a : α) :
    ending isLetter (a, rest) = some (a, rest) := by
  simp [ending, follows.goesOn_eq]

/-! ## Texts -/

theorem readQuoted_closing (follows : Follows isLetter rest) :
    readQuoted ('\'' :: rest) = some ([], rest) := by
  cases rest with
  | nil => rfl
  | cons c rest =>
    have single : c ≠ '\'' := (follows c rfl).1
    rw [readQuoted]
    simpa using single

/-- A character is read back, whether it is escaped or not. -/
theorem readQuoted_escapeChar (c : Char) (cs : List Char) :
    readQuoted ((if SqlValue.needsEscape c then ['\\', c] else [c]) ++ cs) =
      (readQuoted cs).map fun (content, behind) => (c :: content, behind) := by
  cases special : SqlValue.needsEscape c with
  | true =>
    have escaped : readQuoted ('\\' :: c :: cs) =
        (readQuoted cs).map fun (content, behind) => (c :: content, behind) := by
      rw [readQuoted]
    exact escaped
  | false =>
    have noBackslash : c ≠ '\\' := by
      rintro rfl
      cases special
    have noQuote : c ≠ '\'' := by
      rintro rfl
      cases special
    cases cs <;> simp [readQuoted, noBackslash, noQuote]

theorem readQuoted_escapeChars (follows : Follows isLetter rest) (cs : List Char) :
    readQuoted (SqlValue.escapeChars cs ++ '\'' :: rest) = some (cs, rest) := by
  induction cs with
  | nil => exact readQuoted_closing follows
  | cons c cs ih =>
    have unfolded : SqlValue.escapeChars (c :: cs) =
        (if SqlValue.needsEscape c then ['\\', c] else [c]) ++ SqlValue.escapeChars cs := rfl
    rw [unfolded, List.append_assoc, readQuoted_escapeChar, ih]
    rfl

theorem readLiteral_quote (follows : Follows isLetter rest) (s : String) :
    readLiteral isLetter ((SqlValue.quote s).toList ++ rest) = some (.text s.toList, rest) := by
  have spelled : (SqlValue.quote s).toList ++ rest =
      '\'' :: (SqlValue.escapeChars s.toList ++ '\'' :: rest) := by
    simp [SqlValue.quote, SqlValue.escape]
  rw [spelled, readLiteral, readQuoted_escapeChars follows]
  rfl

/-! ## Integers -/

theorem readUnsigned_toDigits (follows : Follows isLetter rest) (n : Nat) :
    readUnsigned isLetter (Nat.toDigits 10 n ++ rest) = some (n, rest) := by
  have taken : (Parser.takeWhile1 Char.isDigit).run (Nat.toDigits 10 n ++ rest) =
      some (Nat.toDigits 10 n, rest) :=
    Parser.run_takeWhile1_eq_some_iff.mpr ⟨rfl, Nat.toDigits_ne_nil, Text.isDigit_toDigits n,
      fun c first => (follows c first).2.2.1⟩
  rw [readUnsigned, taken]
  refine (follows.ending_eq _).trans ?_
  rw [Nat.ofDigitChars_ten_toDigits]

theorem readLiteral_toDigits (follows : Follows isLetter rest) (n : Nat) :
    readLiteral isLetter (Nat.toDigits 10 n ++ rest) = some (.integer n, rest) := by
  have read := readUnsigned_toDigits follows n
  cases digits : Nat.toDigits 10 n with
  | nil => exact absurd digits Nat.toDigits_ne_nil
  | cons c cs =>
    have digit : c.isDigit = true := Text.isDigit_toDigits n c (by simp [digits])
    rw [digits] at read
    unfold readLiteral
    split
    next quote =>
      obtain ⟨rfl, -⟩ := List.cons.inj quote
      cases digit
    next word =>
      obtain ⟨rfl, -⟩ := List.cons.inj word
      cases digit
    next sign =>
      obtain ⟨rfl, -⟩ := List.cons.inj sign
      cases digit
    next =>
      rw [read]
      rfl

theorem readLiteral_int (follows : Follows isLetter rest) (n : Int) :
    readLiteral isLetter ((toString n).toList ++ rest) = some (.integer n, rest) := by
  cases n with
  | ofNat n =>
    have spelled : (toString (Int.ofNat n)).toList = Nat.toDigits 10 n := Text.toList_toString n
    rw [spelled]
    exact readLiteral_toDigits follows n
  | negSucc n =>
    rw [Text.toList_toString_negSucc, List.cons_append, readLiteral, readUnsigned_toDigits follows]
    rfl

end Sql

/-! ## Values -/

namespace SqlValue

open Sql (Datum Follows readLiteral)

/-- What a value stands for in a statement: truth values for 1 and 0, what is no number for null,
and all that is neither a number nor null for its plain text. Finite floating-point numbers are
left aside. -/
def datum? : SqlValue → Option Datum
  | null => some .null
  | bool b => some (.integer (if b then 1 else 0))
  | int n => some (.integer n.toInt)
  | uint n => some (.integer n.toNat)
  | float x => if x.isFinite then none else some .null
  | v => some (.text v.plain.toList)

theorem exists_datum {v : SqlValue} (noFloat : ∀ x, v = float x → x.isFinite = false) :
    ∃ d, v.datum? = some d := by
  cases v with
  | float x => exact ⟨.null, if_neg (by simp [noFloat x rfl])⟩
  | _ => exact ⟨_, rfl⟩

/-- What is bound stands for the same. -/
theorem datum?_param (v : SqlValue) : v.param.datum? = v.datum? := by
  cases v with
  | bool b => cases b <;> rfl
  | float x => cases finite : x.isFinite <;> simp [param, datum?, finite]
  | _ => rfl

/-- What is written stands for the same. -/
theorem read_literal {isLetter : Char → Bool} {rest : List Char} (follows : Follows isLetter rest)
    {v : SqlValue} {d : Datum} (stands : v.datum? = some d) :
    readLiteral isLetter (v.literal.toList ++ rest) = some (d, rest) := by
  cases v with
  | null =>
    cases stands
    exact follows.ending_eq Datum.null
  | bool b =>
    cases stands
    cases b with
    | false => exact Sql.readLiteral_int follows 0
    | true => exact Sql.readLiteral_int follows 1
  | int n =>
    cases stands
    exact Sql.readLiteral_int follows n.toInt
  | uint n =>
    cases stands
    exact Sql.readLiteral_int follows n.toNat
  | float x =>
    cases finite : x.isFinite with
    | true => simp [datum?, finite] at stands
    | false =>
      obtain rfl : Datum.null = d := by simpa [datum?, finite] using stands
      rw [literal, if_neg (by simp [finite])]
      exact follows.ending_eq Datum.null
  | _ =>
    cases stands
    exact Sql.readLiteral_quote follows _

/-- The literal of a value that is no finite floating-point number is read in full, whatever can
stand behind it. It is read as what the value stands for, and the parameter stands for the same. -/
theorem literal_denotes_param {isLetter : Char → Bool} {v : SqlValue} {rest : List Char}
    (noFloat : ∀ x, v = float x → x.isFinite = false) (follows : Follows isLetter rest) :
    ∃ d, v.datum? = some d ∧ v.param.datum? = some d ∧
      readLiteral isLetter (v.literal.toList ++ rest) = some (d, rest) := by
  obtain ⟨d, stands⟩ := exists_datum noFloat
  exact ⟨d, stands, v.datum?_param.trans stands, read_literal follows stands⟩

/-- A list is one text, also with a quote inside and a backslash at its end. -/
theorem literal_denotes_param_list :
    readLiteral Char.isAlpha ((list [text "it's", list [bool true, bytes [92]]]).literal.toList ++
      " AND b".toList) = some (.text "it's,true,\\".toList, " AND b".toList) := by
  have follows : Follows Char.isAlpha " AND b".toList := by
    intro c first
    cases first
    decide
  obtain ⟨d, -, denotes, read⟩ := @literal_denotes_param Char.isAlpha
    (list [text "it's", list [bool true, bytes [92]]]) " AND b".toList nofun follows
  have bound : (list [text "it's", list [bool true, bytes [92]]]).param.datum? =
      some (.text "it's,true,\\".toList) := by
    decide +kernel
  cases denotes.symm.trans bound
  exact read

end SqlValue

end Clausal
