import Clausal.Text.Case
import Clausal.Text.Utf8
import Mathlib.Data.List.Basic
/-!
# Texts and their bytes

Characters of ASCII are single bytes below 128, all others consist of bytes from 128 on. So an ASCII
byte inside a text is a character of it, an ASCII word is found among the bytes exactly where it is
found among the characters, and small letters can be put byte by byte.
-/

namespace Clausal.Text

/-- The characters that are one byte. -/
def IsAscii (c : Char) : Prop :=
  c.toNat < 128

namespace Utf8

/-! ## Sizes -/

theorem size_append (a b : List Char) : size (a ++ b) = size a + size b := by
  induction a with
  | nil => simp [size]
  | cons c rest ih => rw [List.cons_append, size, size, ih, Nat.add_assoc]

theorem size_le_of_suffix {cs part : List Char} (suffix : part <:+ cs) : size part ≤ size cs := by
  obtain ⟨front, rfl⟩ := suffix
  rw [size_append]
  omega

theorem size_le_of_prefix {cs part : List Char} (starts : part <+: cs) : size part ≤ size cs := by
  obtain ⟨back, rfl⟩ := starts
  rw [size_append]
  omega

theorem size_pos {cs : List Char} (full : cs ≠ []) : 0 < size cs := by
  cases cs with
  | nil => exact absurd rfl full
  | cons c rest => exact Nat.lt_of_lt_of_le c.utf8Size_pos (Nat.le_add_right _ _)

theorem encode_cons (c : Char) (cs : List Char) :
    encode (c :: cs) = String.utf8EncodeChar c ++ encode cs := rfl

theorem length_encode (cs : List Char) : (encode cs).length = size cs := by
  induction cs with
  | nil => rfl
  | cons c rest ih =>
    rw [encode_cons, List.length_append, ih, String.length_utf8EncodeChar, size]

theorem take_encode {cs part : List Char} (starts : part <+: cs) :
    (encode cs).take (size part) = encode part := by
  obtain ⟨back, rfl⟩ := starts
  rw [encode_append, ← length_encode, List.take_left]

/-! ## Bytes of ASCII -/

theorem encodeChar_of_isAscii {c : Char} (ascii : IsAscii c) :
    String.utf8EncodeChar c = [UInt8.ofNat c.toNat] := by
  have small : c.val.toNat ≤ 127 := Nat.le_of_lt_succ ascii
  rw [String.utf8EncodeChar.eq_1, if_pos small]
  rfl

theorem toNat_byte {c : Char} (ascii : IsAscii c) : (UInt8.ofNat c.toNat).toNat = c.toNat :=
  UInt8.toNat_ofNat_of_lt' (Nat.lt_trans ascii (by decide))

/-- All bytes of other characters are above those of ASCII. -/
theorem le_of_mem_encodeChar {c : Char} (other : ¬ IsAscii c) :
    ∀ b ∈ String.utf8EncodeChar c, 128 ≤ b.toNat := by
  have large : ¬ c.val.toNat ≤ 127 := fun small => other (Nat.lt_succ_of_le small)
  have high (n : Nat) (low : 128 ≤ n) (bound : n < 256) : 128 ≤ (UInt8.ofNat n).toNat := by
    have same : (UInt8.ofNat n).toNat = n := UInt8.toNat_ofNat_of_lt' bound
    omega
  rw [String.utf8EncodeChar.eq_1, if_neg large]
  split
  · simp only [List.forall_mem_cons, List.not_mem_nil, false_implies, implies_true, and_true]
    exact ⟨high _ (by omega) (by omega), high _ (by omega) (by omega)⟩
  · split
    · simp only [List.forall_mem_cons, List.not_mem_nil, false_implies, implies_true, and_true]
      exact ⟨high _ (by omega) (by omega), high _ (by omega) (by omega),
        high _ (by omega) (by omega)⟩
    · simp only [List.forall_mem_cons, List.not_mem_nil, false_implies, implies_true, and_true]
      exact ⟨high _ (by omega) (by omega), high _ (by omega) (by omega),
        high _ (by omega) (by omega), high _ (by omega) (by omega)⟩

/-- An ASCII byte of a text is a character of it, and what stands on both sides are texts. -/
theorem exists_char_of_encode {cs : List Char} {front back : List UInt8} {b : UInt8}
    (split : encode cs = front ++ b :: back) (ascii : b.toNat < 128) :
    ∃ before c after, cs = before ++ c :: after ∧ encode before = front ∧ c.toNat = b.toNat ∧
      encode after = back := by
  induction cs generalizing front with
  | nil => simp at split
  | cons c rest ih =>
    rw [encode_cons] at split
    by_cases single : IsAscii c
    · rw [encodeChar_of_isAscii single] at split
      cases front with
      | nil =>
        obtain ⟨rfl, same⟩ := List.cons.inj split
        refine ⟨[], c, rest, rfl, rfl, ?_, same⟩
        exact (toNat_byte single).symm
      | cons first front =>
        obtain ⟨rfl, later⟩ := List.cons.inj split
        obtain ⟨before, d, after, rfl, encoded, same, remaining⟩ := ih later
        refine ⟨c :: before, d, after, rfl, ?_, same, remaining⟩
        rw [encode_cons, encodeChar_of_isAscii single, encoded]
        rfl
    · -- The byte is none of this character, so the whole character lies in front of it.
      rcases List.append_eq_append_iff.mp split with ⟨more, whole, later⟩ | ⟨more, whole, inside⟩
      · obtain ⟨before, d, after, rfl, encoded, same, remaining⟩ := ih later
        exact ⟨c :: before, d, after, rfl, by rw [encode_cons, encoded, whole], same, remaining⟩
      · cases more with
        | nil =>
          obtain ⟨before, d, after, rfl, encoded, same, remaining⟩ :=
            @ih [] (by simpa using inside.symm)
          refine ⟨c :: before, d, after, rfl, ?_, same, remaining⟩
          rw [encode_cons, encoded, whole, List.append_nil, List.append_nil]
        | cons first more =>
          obtain ⟨rfl, -⟩ := List.cons.inj inside
          have high := le_of_mem_encodeChar single b (by simp [whole])
          omega

/-! ## ASCII words -/

theorem eq_nil_of_encode_eq_nil {cs : List Char} (empty : encode cs = []) : cs = [] := by
  cases cs with
  | nil => rfl
  | cons c rest =>
    rw [encode_cons] at empty
    exact absurd (List.append_eq_nil_iff.mp empty).1 String.utf8EncodeChar_ne_nil

theorem ofNat_toNat_inj {c d : Char} (ascii : IsAscii c) (ascii' : IsAscii d)
    (same : UInt8.ofNat c.toNat = UInt8.ofNat d.toNat) : c = d := by
  have numbers := congrArg UInt8.toNat same
  rw [toNat_byte ascii, toNat_byte ascii'] at numbers
  exact Char.toNat_inj.mp numbers

theorem encode_prefix_iff {word cs : List Char} (ascii : ∀ c ∈ word, IsAscii c) :
    encode word <+: encode cs ↔ word <+: cs := by
  constructor
  · intro starts
    induction word generalizing cs with
    | nil => exact List.nil_prefix
    | cons w word ih =>
      obtain ⟨here, later⟩ := List.forall_mem_cons.mp ascii
      obtain ⟨rest, split⟩ := starts
      rw [encode_cons, encodeChar_of_isAscii here] at split
      obtain ⟨before, c, after, rfl, empty, same, remaining⟩ :=
        @exists_char_of_encode _ [] _ _ split.symm ((toNat_byte here).symm ▸ here)
      rw [eq_nil_of_encode_eq_nil empty, List.nil_append,
        Char.toNat_inj.mp (same.trans (toNat_byte here))]
      exact (List.prefix_cons_inj w).mpr (ih later ⟨rest, remaining.symm⟩)
  · rintro ⟨rest, rfl⟩
    exact ⟨encode rest, (encode_append word rest).symm⟩

/-- An ASCII word stands among the bytes of a text where it stands in the text, and nowhere else. -/
theorem encode_prefix_drop_iff {word cs : List Char} {p : Nat} (ascii : ∀ c ∈ word, IsAscii c)
    (full : word ≠ []) : encode word <+: (encode cs).drop p ↔
      ∃ before after, cs = before ++ after ∧ size before = p ∧ word <+: after := by
  constructor
  · intro starts
    cases word with
    | nil => exact absurd rfl full
    | cons w word =>
      have here := ascii w (by simp)
      obtain ⟨rest, behind⟩ := starts
      rw [encode_cons, encodeChar_of_isAscii here] at behind
      have inside : p < (encode cs).length := by
        refine Nat.lt_of_not_le fun outside => ?_
        rw [List.drop_eq_nil_of_le outside] at behind
        cases behind
      have split := List.take_append_drop p (encode cs)
      rw [← behind] at split
      obtain ⟨before, c, after, rfl, front, -, -⟩ :=
        exists_char_of_encode split.symm ((toNat_byte here).symm ▸ here)
      have size : size before = p := by
        rw [← length_encode, front, List.length_take]
        omega
      refine ⟨before, c :: after, rfl, size, (encode_prefix_iff ascii).mp ?_⟩
      rw [encode_append, ← size, ← length_encode, List.drop_left] at behind
      rw [← behind, encode_cons, encodeChar_of_isAscii here]
      exact List.prefix_append _ _
  · rintro ⟨before, after, rfl, rfl, starts⟩
    rw [encode_append, ← length_encode, List.drop_left]
    exact (encode_prefix_iff ascii).mpr starts

/-- The number of times that an ASCII character occurs can be counted among the bytes. -/
theorem count_encode {c : Char} (ascii : IsAscii c) (cs : List Char) :
    (encode cs).count (UInt8.ofNat c.toNat) = cs.count c := by
  induction cs with
  | nil => rfl
  | cons d rest ih =>
    rw [encode_cons, List.count_append, List.count_cons, ih, Nat.add_comm]
    congr 1
    by_cases single : IsAscii d
    · rw [encodeChar_of_isAscii single, List.count_singleton]
      by_cases same : d = c
      · simp [same]
      · have apart : UInt8.ofNat d.toNat ≠ UInt8.ofNat c.toNat :=
          fun equal => same (ofNat_toNat_inj single ascii equal)
        simp [same, apart]
    · have apart : d ≠ c := by
        rintro rfl
        exact single ascii
      have absent : UInt8.ofNat c.toNat ∉ String.utf8EncodeChar d := by
        intro mem
        have high := le_of_mem_encodeChar single _ mem
        rw [toNat_byte ascii] at high
        exact absurd ascii (Nat.not_lt.mpr high)
      simp [apart, List.count_eq_zero_of_not_mem absent]

/-! ## Small letters -/

/-- The byte of the small letter, for the byte of a capital letter. -/
def lowerByte (b : UInt8) : UInt8 :=
  if 'A'.toNat ≤ b.toNat ∧ b.toNat ≤ 'Z'.toNat then b + 32 else b

theorem lowerByte_of_le {b : UInt8} (high : 128 ≤ b.toNat) : lowerByte b = b := by
  have beyond : ¬ b.toNat ≤ 'Z'.toNat := Nat.not_le.mpr (Nat.lt_of_lt_of_le (by decide) high)
  exact if_neg fun letter => beyond letter.2

theorem encodeChar_toLower (c : Char) :
    String.utf8EncodeChar c.toLower = (String.utf8EncodeChar c).map lowerByte := by
  by_cases ascii : IsAscii c
  · have each : ∀ n : Fin 128, String.utf8EncodeChar (Char.ofNat n).toLower =
        (String.utf8EncodeChar (Char.ofNat n)).map lowerByte := by
      decide
    simpa using each ⟨c.toNat, ascii⟩
  · have same : c.toLower = c := by
      refine dif_neg fun letter => ?_
      have low : c.toNat ≤ 'Z'.toNat := UInt32.le_iff_toNat_le.mp letter.2
      exact ascii (Nat.lt_of_le_of_lt low (by decide))
    have kept : ∀ b ∈ String.utf8EncodeChar c, lowerByte b = id b := fun b mem =>
      lowerByte_of_le (le_of_mem_encodeChar ascii b mem)
    rw [same, List.map_congr_left kept, List.map_id]

/-- Small letters can be put byte by byte. -/
theorem encode_lower (cs : List Char) : encode (lower cs) = (encode cs).map lowerByte := by
  induction cs with
  | nil => rfl
  | cons c rest ih =>
    have split : lower (c :: rest) = c.toLower :: lower rest := rfl
    rw [split, encode_cons, encode_cons, List.map_append, ih, encodeChar_toLower]

theorem size_lower (cs : List Char) : size (lower cs) = size cs := by
  rw [← length_encode, encode_lower, List.length_map, length_encode]

end Utf8

end Clausal.Text
