/-!
Arithmetic on unsigned numbers of 64 bits that stops at the greatest one.
-/

namespace Clausal.Saturating

/-- The greatest number of 64 bits. -/
def greatest : Nat := UInt64.size - 1

/-- The nearest number of 64 bits. -/
def ofNat (n : Nat) : UInt64 :=
  UInt64.ofNat (min n greatest)

/-- The sum, or the greatest number if it is larger. -/
def add (a b : UInt64) : UInt64 :=
  ofNat (a.toNat + b.toNat)

/-- The product, or the greatest number if it is larger. -/
def mul (a b : UInt64) : UInt64 :=
  ofNat (a.toNat * b.toNat)

theorem toNat_ofNat (n : Nat) : (ofNat n).toNat = min n greatest := by
  have bound : min n greatest < UInt64.size := by
    have : 0 < UInt64.size := by decide
    unfold greatest
    omega
  exact UInt64.toNat_ofNat_of_lt bound

theorem toNat_add (a b : UInt64) : (add a b).toNat = min (a.toNat + b.toNat) greatest :=
  toNat_ofNat _

theorem toNat_mul (a b : UInt64) : (mul a b).toNat = min (a.toNat * b.toNat) greatest :=
  toNat_ofNat _

theorem toNat_le_greatest (n : UInt64) : n.toNat ≤ greatest := by
  have bound := n.toNat_lt_size
  unfold greatest
  omega

theorem toNat_min (a b : UInt64) : (min a b).toNat = min a.toNat b.toNat := by
  rw [Std.min_eq_if]
  split
  next le =>
    rw [UInt64.le_iff_toNat_le] at le
    omega
  next gt =>
    rw [UInt64.le_iff_toNat_le] at gt
    omega

theorem toNat_max (a b : UInt64) : (max a b).toNat = max a.toNat b.toNat := by
  change (if a ≤ b then b else a).toNat = _
  split
  next le =>
    rw [UInt64.le_iff_toNat_le] at le
    omega
  next gt =>
    rw [UInt64.le_iff_toNat_le] at gt
    omega

end Clausal.Saturating
