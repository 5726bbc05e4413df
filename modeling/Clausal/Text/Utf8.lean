/-!
Text as bytes in UTF-8. Decoding never fails: each maximal part of an ill-formed sequence is read
as one replacement character, so well-formed text is read as it was written.
-/

namespace Clausal.Text.Utf8

/-- The character that stands for an ill-formed part. -/
def replacement : Char := Char.ofNat 0xFFFD

/-- The bytes of a text. -/
def encode (cs : List Char) : List UInt8 :=
  cs.flatMap String.utf8EncodeChar

/-- The number of bytes of a text. -/
def size : List Char → Nat
  | [] => 0
  | c :: cs => c.utf8Size + size cs

/-- The length that a first byte announces: one to four bytes, or none for a byte that starts no
sequence. -/
def announcedLength (b : UInt8) : Nat :=
  if b < 0x80 then 1
  else if b < 0xC2 then 0
  else if b < 0xE0 then 2
  else if b < 0xF0 then 3
  else if b < 0xF5 then 4
  else 0

/-- A continuation byte has the form 10xxxxxx. -/
def isContinuation (b : UInt8) : Bool :=
  0x80 ≤ b && b ≤ 0xBF

/-- The second byte is narrower after four first bytes: it excludes overlong forms, surrogates and
what lies above the last code point. -/
def isSecond (first b : UInt8) : Bool :=
  if first = 0xE0 then 0xA0 ≤ b && b ≤ 0xBF
  else if first = 0xED then 0x80 ≤ b && b ≤ 0x9F
  else if first = 0xF0 then 0x90 ≤ b && b ≤ 0xBF
  else if first = 0xF4 then 0x80 ≤ b && b ≤ 0x8F
  else isContinuation b

/-- The bytes after a first byte that continue its sequence: at most as many as were announced, and
none from the first illegal one on. -/
def continued (first : UInt8) : Nat → List UInt8 → List UInt8
  | n + 1, b :: r => if isSecond first b then b :: (r.take n).takeWhile isContinuation else []
  | _, _ => []

/-- What a first byte contributes to the code point is its value modulo this, by the number of
continuation bytes. -/
def leadModulus : Nat → Nat
  | 0 => 128
  | 1 => 32
  | 2 => 16
  | _ => 8

/-- The code point of a complete sequence; each continuation byte adds six bits. -/
def codePoint (first : UInt8) (rest : List UInt8) : Nat :=
  rest.foldl (fun n b => n * 64 + b.toNat % 64) (first.toNat % leadModulus rest.length)

/-- The character at the front, and the number of bytes after the first that it takes. -/
def decodeFirst (first : UInt8) (r : List UInt8) : Char × Nat :=
  match announcedLength first with
  | 0 => (replacement, 0)
  | n + 1 =>
    let rest := continued first n r
    if rest.length = n then (Char.ofNat (codePoint first rest), n) else (replacement, rest.length)

/-- The text that bytes stand for, ill-formed parts replaced. -/
def decode : List UInt8 → List Char
  | [] => []
  | b :: r =>
    let front := decodeFirst b r
    front.1 :: decode (r.drop front.2)
termination_by bytes => bytes.length

/-- The string that bytes stand for, ill-formed parts replaced. -/
def decodeString (bytes : List UInt8) : String :=
  String.ofList (decode bytes)

@[simp] theorem encode_nil : encode [] = [] := rfl

@[simp] theorem decode_nil : decode [] = [] := by
  rw [decode]

theorem encode_append (a b : List Char) : encode (a ++ b) = encode a ++ encode b := by
  simp [encode]

end Clausal.Text.Utf8
