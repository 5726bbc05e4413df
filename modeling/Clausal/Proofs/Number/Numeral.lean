import Clausal.SqlValue.Basic
import Mathlib.Data.Nat.Basic
/-!
# Numerals

A number stands in a statement as a numeral: digits, perhaps a minus in front, perhaps a point with
more digits behind it. Integers are numerals, and so is every finite floating-point number, because
it is written with all digits in their places; the words for other numbers are never reached.
-/

namespace Clausal.Number

/-- A run of decimal digits, at least one. -/
structure Digits where
  chars : List Char
  ne_nil : chars ≠ []
  isDigit : ∀ c ∈ chars, c.isDigit = true

namespace Digits

/-- The digits of a natural number. -/
def ofNat (n : Nat) : Digits where
  chars := Nat.toDigits 10 n
  ne_nil := Nat.toDigits_ne_nil
  isDigit := fun _ mem => Nat.isDigit_of_mem_toDigits (by omega) (by omega) mem

end Digits

/-- A number as it stands in a statement. -/
structure Numeral where
  negative : Bool
  whole : Digits
  fraction : Option Digits

namespace Numeral

/-- The characters of a numeral. -/
def text (n : Numeral) : List Char :=
  (if n.negative then ['-'] else []) ++ n.whole.chars ++
    match n.fraction with
    | none => []
    | some digits => '.' :: digits.chars

theorem text_ne_nil (n : Numeral) : n.text ≠ [] := by
  simp [text, n.whole.ne_nil]

theorem mem_text {n : Numeral} {c : Char} (mem : c ∈ n.text) :
    c.isDigit = true ∨ (c = '-' ∧ n.negative = true) ∨ c = '.' := by
  unfold text at mem
  rcases List.mem_append.mp mem with front | fraction
  · rcases List.mem_append.mp front with sign | whole
    · cases negative : n.negative <;> simp_all
    · exact .inl (n.whole.isDigit c whole)
  · cases digits : n.fraction with
    | none => simp [digits] at fraction
    | some digits' =>
      rw [digits] at fraction
      rcases List.mem_cons.mp fraction with point | digit
      · exact .inr (.inr point)
      · exact .inl (digits'.isDigit c digit)

theorem text_of_negative {n : Numeral} (sign : n.negative = true) :
    n.text = '-' :: ({ n with negative := false } : Numeral).text := by
  simp [text, sign]

end Numeral

/-! ## Integers -/

theorem exists_numeral_of_nat (n : Nat) : ∃ m : Numeral, (toString n).toList = m.text := by
  refine ⟨⟨false, .ofNat n, none⟩, ?_⟩
  simp [Numeral.text, Digits.ofNat]

theorem exists_numeral_of_int (n : Int) : ∃ m : Numeral, (toString n).toList = m.text := by
  cases n with
  | ofNat n => exact exists_numeral_of_nat n
  | negSucc n =>
    refine ⟨⟨true, .ofNat (n + 1), none⟩, ?_⟩
    have written : toString (Int.negSucc n) = "-" ++ toString (n + 1) := rfl
    simp [written, Numeral.text, Digits.ofNat]

/-! ## Decimal numbers -/

theorem isDigit_of_mem_zeros {n : Nat} {c : Char} (mem : c ∈ zeros n) : c.isDigit = true := by
  rw [List.eq_of_mem_replicate mem]
  rfl

namespace Decimal

theorem isDigit_of_mem_text {d : Decimal} {c : Char} (mem : c ∈ d.text) : c.isDigit = true :=
  (Digits.ofNat d.digits).isDigit c mem

theorem text_ne_nil (d : Decimal) : d.text ≠ [] :=
  (Digits.ofNat d.digits).ne_nil

/-- A decimal number with all digits in their places is a numeral without a sign. -/
theorem exists_numeral_of_positional (d : Decimal) :
    ∃ m : Numeral, m.negative = false ∧ d.positional [] = m.text := by
  unfold positional
  split
  next large =>
    refine ⟨⟨false, ⟨d.text ++ zeros d.exponent.toNat, ?_, ?_⟩, none⟩, rfl, ?_⟩
    · simp [d.text_ne_nil]
    · intro c mem
      rcases List.mem_append.mp mem with digit | zero
      · exact isDigit_of_mem_text digit
      · exact isDigit_of_mem_zeros zero
    · simp [Numeral.text]
  next small =>
    split
    next inside =>
      have length : d.point = d.text.length + d.exponent := rfl
      refine ⟨⟨false, ⟨d.text.take d.point.toNat, ?_, ?_⟩,
        some ⟨d.text.drop d.point.toNat, ?_, ?_⟩⟩, rfl, ?_⟩
      · intro empty
        have none := congrArg List.length empty
        simp only [List.length_take, List.length_nil] at none
        omega
      · exact fun c mem => isDigit_of_mem_text (List.mem_of_mem_take mem)
      · intro empty
        have none := congrArg List.length empty
        simp only [List.length_drop, List.length_nil] at none
        omega
      · exact fun c mem => isDigit_of_mem_text (List.mem_of_mem_drop mem)
      · simp [Numeral.text]
    next below =>
      refine ⟨⟨false, ⟨['0'], by simp, by simp⟩,
        some ⟨zeros (-d.point).toNat ++ d.text, ?_, ?_⟩⟩, rfl, ?_⟩
      · simp [d.text_ne_nil]
      · intro c mem
        rcases List.mem_append.mp mem with zero | digit
        · exact isDigit_of_mem_zeros zero
        · exact isDigit_of_mem_text digit
      · simp [Numeral.text]

end Decimal

/-! ## Floating-point numbers -/

/-- The parts of a finite number: a sign, a mantissa and an exponent. -/
def Datum.isFinite : Datum → Bool
  | .finite _ _ _ _ => true
  | _ => false

theorem exists_numeral_of_datum {x : Datum} (finite : x.isFinite = true) :
    ∃ m : Numeral, (SqlValue.floatStyle.write x).toList = m.text := by
  cases x with
  | nan => cases finite
  | infinite negative => cases finite
  | finite negative mantissa exponent narrow =>
    have written (d : Decimal) : ∃ m : Numeral, m.negative = false ∧
        SqlValue.floatStyle.writeDecimal d = m.text :=
      d.exists_numeral_of_positional
    have size : ∃ m : Numeral, m.negative = false ∧ (if mantissa = 0
        then SqlValue.floatStyle.writeDecimal ⟨0, 0⟩
        else SqlValue.floatStyle.writeDecimal
          (.shortest SqlValue.floatStyle.tie mantissa exponent narrow)) = m.text := by
      split <;> exact written _
    obtain ⟨m, unsigned, text⟩ := size
    refine ⟨{ m with negative := negative }, ?_⟩
    rw [FloatStyle.write, String.toList_ofList, text]
    cases negative <;> simp [Numeral.text, unsigned]

/-- The field of the exponent in the bits of a number. -/
def Layout.field (l : Layout) (bits : Nat) : Nat :=
  bits / Nat.pow 2 l.fractionBits % Nat.pow 2 l.exponentBits

/-- A number whose exponent is not the greatest one is finite. -/
theorem Layout.isFinite_datum {l : Layout} {bits : Nat}
    (ordinary : l.field bits ≠ Nat.pow 2 l.exponentBits - 1) : (l.datum bits).isFinite = true := by
  unfold field at ordinary
  simp only [datum, if_neg ordinary]
  split <;> rfl

open Float.Model in
/-- The machine takes the exponent from the same bits. -/
theorem toNat_unpackExponent (x : Float) :
    (@UnpackedFloat.unpackExponent Format.binary64 x.toModel.toBits.toBitVec).toNat =
      Layout.double.field x.toBits.toNat := by
  unfold UnpackedFloat.unpackExponent
  simp only [BitVec.toNat_cast, BitVec.extractLsb_toNat]
  rw [Nat.shiftRight_eq_div_pow]
  rfl

open Float.Model in
/-- A number that is finite for the machine has the bits of a finite number. -/
theorem isFinite_ofFloat {x : Float} (finite : x.isFinite = true) :
    (ofFloat x).isFinite = true := by
  refine Layout.isFinite_datum fun greatest => ?_
  have ones : @UnpackedFloat.unpackExponent Format.binary64
      x.toModel.toBits.toBitVec = -1#11 := by
    apply BitVec.eq_of_toNat_eq
    rw [toNat_unpackExponent, greatest]
    rfl
  have unpacked : (UnpackedFloat.unpack Format.binary64 x.toModel.toBits.toBitVec).isFinite =
      true := finite
  unfold UnpackedFloat.unpack at unpacked
  dsimp only at unpacked
  rw [if_pos ones] at unpacked
  split at unpacked <;> cases unpacked

end Clausal.Number
