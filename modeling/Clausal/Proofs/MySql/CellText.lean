import Clausal.Proofs.Text.Decoding
import Clausal.Proofs.Text.Numeral
import Clausal.Result
import Mathlib.Data.List.Forall2
/-!
# The text of cells of bytes

A cell of nothing but control characters is shown as numbers in base 2, any other is read as text.
Text is shown as it is, and what is shown is text itself, so it is shown the same way again.
-/

namespace Clausal.Cell

open Text

/-- A control character is none of the characters that are seen. -/
theorem isControl_eq_false_iff {b : UInt8} : isControl b = false ↔ 32 ≤ b.toNat := by
  rw [isControl, decide_eq_false_iff_not, UInt8.lt_iff_toNat_lt]
  exact Nat.not_lt

/-! ## Numbers in base 2 -/

/-- The digits of a number in base 2. No zero leads but that of zero itself. -/
structure IsBinary (n : Nat) (digits : List Char) : Prop where
  full : digits ≠ []
  bits : ∀ c ∈ digits, c = '0' ∨ c = '1'
  value : Nat.ofDigitChars 2 digits 0 = n
  leading : digits.head? = some '0' → digits = ['0']

theorem isBinary_toDigits (n : Nat) : IsBinary n (Nat.toDigits 2 n) where
  full := Nat.toDigits_ne_nil
  bits c mem := by
    obtain ⟨d, bound, rfl⟩ := exists_digit_of_mem_toDigits (by decide) mem
    have bit : d = 0 ∨ d = 1 := by omega
    rcases bit with rfl | rfl
    · exact .inl rfl
    · exact .inr rfl
  value := Nat.ofDigitChars_toDigits (by decide) (by decide)
  leading zero := by
    rcases Nat.eq_zero_or_pos n with rfl | pos
    · rfl
    · exact absurd zero (head?_toDigits_ne_zero (by decide) pos)

/-- Cells of control characters only. -/
theorem decode_of_control {bytes : List UInt8} (control : ∀ b ∈ bytes, b < 32) :
    decode bytes = String.ofList (bytes.flatMap fun b => Nat.toDigits 2 b.toNat) := by
  rw [decode, if_pos]
  exact List.all_eq_true.mpr fun b mem => decide_eq_true (control b mem)

/-- All other cells. -/
theorem decode_of_visible {bytes : List UInt8} (visible : ∃ b ∈ bytes, 32 ≤ b.toNat) :
    decode bytes = Utf8.decodeString bytes := by
  obtain ⟨b, mem, high⟩ := visible
  rw [decode, if_neg]
  rw [Bool.not_eq_true, List.all_eq_false]
  exact ⟨b, mem, by simp [isControl_eq_false_iff.mpr high]⟩

/-! ## Text -/

theorem exists_visible_byte {cs : List Char} (visible : ∃ c ∈ cs, 32 ≤ c.toNat) :
    ∃ b ∈ Utf8.encode cs, 32 ≤ b.toNat := by
  obtain ⟨c, mem, high⟩ := visible
  have inside {b : UInt8} (here : b ∈ String.utf8EncodeChar c) : b ∈ Utf8.encode cs :=
    List.mem_flatMap.mpr ⟨c, mem, here⟩
  by_cases ascii : IsAscii c
  · refine ⟨UInt8.ofNat c.toNat, inside ?_, ?_⟩
    · rw [Utf8.encodeChar_of_isAscii ascii]
      exact List.mem_singleton_self _
    · rw [Utf8.toNat_byte ascii]
      exact high
  · obtain ⟨b, here⟩ := List.exists_mem_of_ne_nil _ (String.utf8EncodeChar_ne_nil (c := c))
    have high' := Utf8.le_of_mem_encodeChar ascii b here
    exact ⟨b, inside here, by omega⟩

/-- Reading loses no byte that is more than a control character. -/
theorem exists_visible_char {bytes : List UInt8} {cs : List Char} (reads : Utf8.Reads bytes cs)
    (visible : ∃ b ∈ bytes, 32 ≤ b.toNat) : ∃ c ∈ cs, 32 ≤ c.toNat := by
  induction reads with
  | nil =>
    obtain ⟨b, mem, -⟩ := visible
    cases mem
  | @char rest cs c reads ih =>
    obtain ⟨b, mem, high⟩ := visible
    rcases List.mem_append.mp mem with here | later
    · refine ⟨c, List.mem_cons_self, Nat.le_of_not_lt fun low => ?_⟩
      have ascii : IsAscii c := Nat.lt_trans low (by decide)
      rw [Utf8.encodeChar_of_isAscii ascii, List.mem_singleton] at here
      rw [here, Utf8.toNat_byte ascii] at high
      omega
    · obtain ⟨d, mem', high'⟩ := ih ⟨b, later, high⟩
      exact ⟨d, List.mem_cons_of_mem _ mem', high'⟩
  | illFormed ill reads ih => exact ⟨Utf8.replacement, List.mem_cons_self, by decide⟩

theorem decode_encode_append {s : String} (visible : ∃ c ∈ s.toList, 32 ≤ c.toNat)
    (bytes : List UInt8) :
    decode (Utf8.encode s.toList ++ bytes) = s ++ Utf8.decodeString bytes := by
  obtain ⟨b, mem, high⟩ := exists_visible_byte visible
  rw [decode_of_visible ⟨b, List.mem_append_left _ mem, high⟩, Utf8.decodeString,
    Utf8.decode_encode_append, String.ofList_append, String.ofList_toList, Utf8.decodeString]

theorem decode_encode {s : String} (visible : ∃ c ∈ s.toList, 32 ≤ c.toNat) :
    decode (Utf8.encode s.toList) = s := by
  have read := decode_encode_append visible []
  rwa [List.append_nil, Utf8.decodeString, Utf8.decode_nil, String.ofList_nil,
    String.append_empty] at read

/-- What is shown of a cell that is not empty holds more than control characters. -/
theorem exists_visible_decode {bytes : List UInt8} (full : bytes ≠ []) :
    ∃ c ∈ (decode bytes).toList, 32 ≤ c.toNat := by
  by_cases control : ∀ b ∈ bytes, b < 32
  · obtain ⟨b, rest, rfl⟩ := List.exists_cons_of_ne_nil full
    have binary := isBinary_toDigits b.toNat
    obtain ⟨c, mem⟩ := List.exists_mem_of_ne_nil _ binary.full
    rw [decode_of_control control, String.toList_ofList, List.flatMap_cons]
    refine ⟨c, List.mem_append_left _ mem, ?_⟩
    rcases binary.bits c mem with rfl | rfl
    · decide
    · decide
  · have visible : ∃ b ∈ bytes, 32 ≤ b.toNat := by
      simpa [UInt8.lt_iff_toNat_lt] using control
    rw [decode_of_visible visible, Utf8.decodeString, String.toList_ofList]
    exact exists_visible_char (Utf8.reads_decode bytes) visible

/-- Bytes below 32 alone are shown as numbers in base 2, one after another. All others are read as
text, each ill-formed part as one replacement. A text that holds a character from U+0020 on is shown
as it is, and what is behind it is read on its own. What is shown is shown the same way again. -/
theorem decode_faithful (bytes : List UInt8) :
    ((∀ b ∈ bytes, b < 32) → ∃ forms, (decode bytes).toList = forms.flatten ∧
      List.Forall₂ (fun b digits => IsBinary b.toNat digits) bytes forms) ∧
    ((∃ b ∈ bytes, ¬ b < 32) → decode bytes = Utf8.decodeString bytes) ∧
    (∀ cs, Utf8.Reads bytes cs ↔ (Utf8.decodeString bytes).toList = cs) ∧
    (∀ s : String, (∃ c ∈ s.toList, 0x20 ≤ c.toNat) → decode (Utf8.encode s.toList) = s ∧
      decode (Utf8.encode s.toList ++ bytes) = s ++ Utf8.decodeString bytes) ∧
    decode (Utf8.encode (decode bytes).toList) = decode bytes := by
  refine ⟨fun control => ?_, fun visible => ?_, fun cs => ?_, fun s visible => ?_, ?_⟩
  · refine ⟨bytes.map fun b => Nat.toDigits 2 b.toNat, ?_, ?_⟩
    · rw [decode_of_control control, String.toList_ofList, List.flatMap_def]
    · rw [List.forall₂_map_right_iff, List.forall₂_same]
      exact fun b _ => isBinary_toDigits b.toNat
  · apply decode_of_visible
    simpa [UInt8.lt_iff_toNat_lt] using visible
  · rw [Utf8.decodeString, String.toList_ofList]
    exact Utf8.reads_iff
  · exact ⟨decode_encode visible, decode_encode_append visible bytes⟩
  · rcases bytes with - | ⟨b, rest⟩
    · rfl
    · exact decode_encode (exists_visible_decode (List.cons_ne_nil b rest))

/-- A surrogate is three ill-formed parts, since no character begins with its first two bytes. -/
theorem decode_faithful_surrogate :
    (∃ c ∈ "é".toList, 0x20 ≤ c.toNat) ∧
      decode (Utf8.encode "é".toList ++ [0xED, 0xA0, 0x80]) = "é\uFFFD\uFFFD\uFFFD" ∧
      ∃ forms, (decode [2, 0, 3]).toList = forms.flatten ∧
        List.Forall₂ (fun (b : UInt8) digits => IsBinary b.toNat digits) [2, 0, 3] forms := by
  have visible : ∃ c ∈ "é".toList, 0x20 ≤ c.toNat := ⟨'é', by simp, by decide⟩
  have control : ∀ b ∈ ([2, 0, 3] : List UInt8), b < 32 := by simp
  obtain ⟨-, -, -, text, -⟩ := decode_faithful [0xED, 0xA0, 0x80]
  refine ⟨visible, ?_, (decode_faithful [2, 0, 3]).1 control⟩
  have illFormed : Utf8.decode [0xED, 0xA0, 0x80] = List.replicate 3 Utf8.replacement := by
    decide +kernel
  rw [(text "é" visible).2, Utf8.decodeString, illFormed]
  rfl

end Clausal.Cell
