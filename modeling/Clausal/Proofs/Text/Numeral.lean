import Clausal.Text.Numeral
/-!
# Numbers read back

The digits of a number of 64 bits, with or without blanks around them, are read as that number.
-/

namespace Clausal.Text

theorem isBlank_of_isDigit {c : Char} (digit : c.isDigit = true) : isBlank c = false := by
  have bounds : 48 ≤ c.val ∧ c.val ≤ 57 := by simpa [Char.isDigit] using digit
  have low : 48 ≤ c.toNat := UInt32.le_iff_toNat_le.mp bounds.1
  have high : c.toNat ≤ 57 := UInt32.le_iff_toNat_le.mp bounds.2
  simp only [isBlank, blankRanges, List.any_cons, List.any_nil, Bool.or_false, Bool.or_eq_false_iff,
    Bool.and_eq_false_iff, decide_eq_false_iff_not]
  omega

theorem toList_toString (n : Nat) : (toString n).toList = Nat.toDigits 10 n :=
  Nat.toList_repr

/-- A negative integer is a minus in front of digits. -/
theorem toList_toString_negSucc (n : Nat) :
    (toString (Int.negSucc n)).toList = '-' :: Nat.toDigits 10 (n + 1) := by
  have written : toString (Int.negSucc n) = "-" ++ toString (n + 1) := rfl
  rw [written, String.toList_append, toList_toString]
  rfl

theorem isDigit_toDigits (n : Nat) : ∀ c ∈ Nat.toDigits 10 n, c.isDigit = true :=
  fun _ mem => Nat.isDigit_of_mem_toDigits (by omega) (by omega) mem

theorem isBlank_toDigits (n : Nat) : ∀ c ∈ Nat.toDigits 10 n, isBlank c = false :=
  fun c mem => isBlank_of_isDigit (isDigit_toDigits n c mem)

theorem exists_digit_of_mem_toDigits {base n : Nat} (large : 1 < base) {c : Char}
    (mem : c ∈ Nat.toDigits base n) : ∃ d < base, c = d.digitChar := by
  induction n using Nat.strongRecOn with
  | ind n ih =>
    by_cases single : n < base
    · rw [Nat.toDigits_of_lt_base single, List.mem_singleton] at mem
      exact ⟨n, single, mem⟩
    · rw [Nat.toDigits_of_base_le large (Nat.le_of_not_lt single), List.mem_append] at mem
      rcases mem with front | last
      · have pos : 0 < n := by omega
        exact ih (n / base) (Nat.div_lt_self pos large) front
      · exact ⟨n % base, Nat.mod_lt n (by omega), List.mem_singleton.mp last⟩

/-- The first digit is a zero for zero alone. -/
theorem head?_toDigits_ne_zero {base n : Nat} (large : 1 < base) (pos : 0 < n) :
    (Nat.toDigits base n).head? ≠ some '0' := by
  induction n using Nat.strongRecOn with
  | ind n ih =>
    by_cases single : n < base
    · rw [Nat.toDigits_of_lt_base single, List.head?_cons, Ne, Option.some_inj,
        Nat.digitChar_eq_zero]
      omega
    · have whole : base ≤ n := Nat.le_of_not_lt single
      have shorter := ih (n / base) (Nat.div_lt_self pos large) (Nat.div_pos whole (by omega))
      rw [Nat.toDigits_of_base_le large whole]
      cases digits : Nat.toDigits base (n / base) with
      | nil => exact absurd digits Nat.toDigits_ne_nil
      | cons c cs =>
        rw [digits] at shorter
        exact shorter

theorem readUInt64?_toDigits (n : UInt64) : readUInt64? (Nat.toDigits 10 n.toNat) = some n := by
  have unsigned : readNat? (Nat.toDigits 10 n.toNat) = readDigits? (Nat.toDigits 10 n.toNat) := by
    unfold readNat?
    split
    next cs signed =>
      have mem : '+' ∈ Nat.toDigits 10 n.toNat := by simp [signed]
      cases isDigit_toDigits n.toNat '+' mem
    next => rfl
  rw [readUInt64?, unsigned, readDigits?_toDigits, Option.bind_some, toUInt64?,
    if_pos n.toNat_lt_size, UInt64.ofNat_toNat]

/-- A signed number fits. -/
theorem toInt64?_toInt (n : Int64) : toInt64? n.toInt = some n := by
  have low := n.minValue_le_toInt
  have high := n.toInt_le
  rw [toInt64?, if_pos ⟨low, high⟩, Int64.ofInt_toInt]

theorem toInt_of_toInt64? {z : Int} {n : Int64} (fits : toInt64? z = some n) : n.toInt = z := by
  unfold toInt64? at fits
  split at fits
  next bounds =>
    cases fits
    exact Int64.toInt_ofInt_of_le bounds.1 (Int.lt_of_le_of_lt bounds.2 Int64.maxValue.toInt_lt)
  next => cases fits

/-! ## What is read as a number -/

/-- Decimal digits, perhaps behind a plus sign, that stand for a number. -/
def StandsFor (cs : List Char) (n : Nat) : Prop :=
  ∃ digits, (cs = digits ∨ cs = '+' :: digits) ∧ digits ≠ [] ∧ (∀ c ∈ digits, c.isDigit = true) ∧
    Nat.ofDigitChars 10 digits 0 = n

theorem readDigits?_eq_some_iff {cs : List Char} {n : Nat} : readDigits? cs = some n ↔
    cs ≠ [] ∧ (∀ c ∈ cs, c.isDigit = true) ∧ Nat.ofDigitChars 10 cs 0 = n := by
  unfold readDigits?
  split
  next refused =>
    simp only [Bool.or_eq_true, List.isEmpty_iff, Bool.not_eq_true', List.all_eq_false] at refused
    simp only [reduceCtorEq, false_iff, not_and]
    rcases refused with rfl | ⟨c, mem, other⟩
    · exact fun some => absurd rfl some
    · exact fun _ digits => absurd (digits c mem) other
  next accepted =>
    simp only [Bool.or_eq_true, List.isEmpty_iff, Bool.not_eq_true', not_or, Bool.not_eq_false,
      List.all_eq_true] at accepted
    rw [Option.some_inj]
    exact ⟨fun value => ⟨accepted.1, accepted.2, value⟩, fun all => all.2.2⟩

theorem readNat?_eq_some_iff {cs : List Char} {n : Nat} :
    readNat? cs = some n ↔ StandsFor cs n := by
  have signless {digits : List Char} (all : ∀ c ∈ '+' :: digits, c.isDigit = true) : False := by
    cases all '+' List.mem_cons_self
  unfold readNat? StandsFor
  split
  next digits =>
    rw [readDigits?_eq_some_iff]
    constructor
    · rintro ⟨some, all, value⟩
      exact ⟨digits, .inr rfl, some, all, value⟩
    · rintro ⟨other, rfl | same, some, all, value⟩
      · exact (signless all).elim
      · cases same
        exact ⟨some, all, value⟩
  next unsigned =>
    rw [readDigits?_eq_some_iff]
    constructor
    · rintro ⟨some, all, value⟩
      exact ⟨cs, .inl rfl, some, all, value⟩
    · rintro ⟨digits, rfl | rfl, some, all, value⟩
      · exact ⟨some, all, value⟩
      · exact (unsigned digits rfl).elim

/-- A number of 64 bits is read exactly from what stands for it. -/
theorem readUInt64?_eq_some_iff {cs : List Char} {n : UInt64} :
    readUInt64? cs = some n ↔ StandsFor cs n.toNat := by
  rw [readUInt64?, Option.bind_eq_some_iff]
  constructor
  · rintro ⟨m, read, fits⟩
    unfold toUInt64? at fits
    split at fits
    next bound =>
      cases fits
      have same : (UInt64.ofNat m).toNat = m := UInt64.toNat_ofNat_of_lt bound
      rw [same]
      exact readNat?_eq_some_iff.mp read
    next => cases fits
  · intro stands
    refine ⟨n.toNat, readNat?_eq_some_iff.mpr stands, ?_⟩
    rw [toUInt64?, if_pos n.toNat_lt_size, UInt64.ofNat_toNat]

end Clausal.Text
