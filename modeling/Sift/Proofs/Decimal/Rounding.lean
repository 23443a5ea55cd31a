import Sift.Proofs.Binary64.Integer
import Sift.Proofs.Decimal.Digits

/-! # Decimals as doubles

A decimal is rounded by its value: zeros at its end may be traded against its exponent. The answers for
decimals far outside the range of doubles are those of rounding.
-/
namespace Sift.Binary64

theorem magnitudeOfDecimal_eq (m : Nat) (e : Int) :
    magnitudeOfDecimal m e = magnitudeOfRatio (m * 10 ^ e.toNat) (10 ^ (-e).toNat) := by
  unfold magnitudeOfDecimal
  split
  · have hzero : (-e).toNat = 0 := by omega
    rw [hzero]
    rfl
  · have hzero : e.toNat = 0 := by omega
    rw [hzero, Nat.pow_zero, Nat.mul_one]
    rfl

/-- The value decides, not how it is shared between the digits and the exponent. -/
theorem magnitudeOfDecimal_congr {m m' : Nat} {e e' : Int}
    (h : m * 10 ^ (e.toNat + (-e').toNat) = m' * 10 ^ (e'.toNat + (-e).toNat)) :
    magnitudeOfDecimal m e = magnitudeOfDecimal m' e' := by
  rw [magnitudeOfDecimal_eq, magnitudeOfDecimal_eq]
  refine magnitudeOfRatio_congr (Nat.pow_pos (by decide)) (Nat.pow_pos (by decide)) ?_
  rwa [Nat.mul_assoc, ← Nat.pow_add, Nat.mul_assoc, ← Nat.pow_add]

theorem magnitudeOfDecimal_mul_pow (m k : Nat) (e : Int) :
    magnitudeOfDecimal (m * 10 ^ k) e = magnitudeOfDecimal m (e + k) := by
  refine magnitudeOfDecimal_congr ?_
  rw [Nat.mul_assoc, ← Nat.pow_add]
  congr 2
  omega

theorem magnitudeOfDecimal_ofNat (m k : Nat) : magnitudeOfDecimal m k = magnitudeOfRatio (m * 10 ^ k) 1 := by
  rw [magnitudeOfDecimal_eq, Int.toNat_natCast]
  have hzero : (-(k : Int)).toNat = 0 := by omega
  rw [hzero, Nat.pow_zero]

theorem magnitudeOfDecimal_zero (e : Int) : magnitudeOfDecimal 0 e = 0 := by
  rw [magnitudeOfDecimal_eq, Nat.zero_mul, magnitudeOfRatio_zero (Nat.pow_pos (by decide))]

/-- Four hundred places are more than doubles have on either side of the point. -/
theorem exists_far_place :
    ∃ p ≤ 400, 2 * unitsPerOne < 10 ^ p ∧ units infinityMagnitude ≤ 10 ^ p * unitsPerOne :=
  ⟨400, Nat.le_refl 400, by decide +kernel⟩

theorem magnitudeOfDecimal_of_small {m : Nat} {e : Int} (h : (digitCount m : Int) + e < -400) :
    magnitudeOfDecimal m e = 0 := by
  obtain ⟨p, hp, hunits, -⟩ := exists_far_place
  rw [magnitudeOfDecimal_eq]
  refine magnitudeOfRatio_of_lt ?_
  calc
    2 * (m * 10 ^ e.toNat * unitsPerOne) = m * 10 ^ e.toNat * (2 * unitsPerOne) := Nat.mul_left_comm ..
    _ ≤ 10 ^ digitCount m * 10 ^ e.toNat * (2 * unitsPerOne) :=
      Nat.mul_le_mul_right _ (Nat.mul_le_mul_right _ (lt_pow_digitCount m).le)
    _ < 10 ^ digitCount m * 10 ^ e.toNat * 10 ^ p :=
      Nat.mul_lt_mul_of_pos_left hunits (Nat.mul_pos (Nat.pow_pos (by decide)) (Nat.pow_pos (by decide)))
    _ ≤ 10 ^ (-e).toNat := by
      rw [← Nat.pow_add, ← Nat.pow_add]
      exact Nat.pow_le_pow_right (by decide) (by omega)

theorem magnitudeOfDecimal_of_large {m : Nat} {e : Int} (hm : 0 < m) (h : 400 < (digitCount m : Int) + e) :
    magnitudeOfDecimal m e = infinityMagnitude := by
  obtain ⟨p, hp, -, hinfinity⟩ := exists_far_place
  have hdigits := pow_le_of_lt_digitCount hm (Nat.sub_lt (digitCount_pos m) Nat.one_pos)
  rw [magnitudeOfDecimal_eq]
  refine magnitudeOfRatio_of_le (Nat.pow_pos (by decide)) ?_
  calc
    units infinityMagnitude * 10 ^ (-e).toNat ≤ 10 ^ p * unitsPerOne * 10 ^ (-e).toNat :=
      Nat.mul_le_mul_right _ hinfinity
    _ = 10 ^ (p + (-e).toNat) * unitsPerOne := by rw [Nat.mul_right_comm, ← Nat.pow_add]
    _ ≤ 10 ^ (digitCount m - 1 + e.toNat) * unitsPerOne :=
      Nat.mul_le_mul_right _ (Nat.pow_le_pow_right (by decide) (by omega))
    _ ≤ m * 10 ^ e.toNat * unitsPerOne := by
      rw [Nat.pow_add]
      exact Nat.mul_le_mul_right _ (Nat.mul_le_mul_right _ hdigits)

/-- The double of a decimal is rounded, wherever its first digit stands. -/
theorem ofDecimal_eq (negative : Bool) (m : Nat) (e : Int) :
    ofDecimal negative m e = ofMagnitude negative (magnitudeOfDecimal m e) := by
  unfold ofDecimal
  simp only [Bool.or_eq_true, decide_eq_true_eq]
  congr 1
  split
  · next h =>
    rcases h with rfl | h
    · exact (magnitudeOfDecimal_zero e).symm
    · exact (magnitudeOfDecimal_of_small h).symm
  · next h =>
    split
    · next hlarge =>
      exact (magnitudeOfDecimal_of_large (Nat.pos_of_ne_zero fun hm => h (.inl hm)) hlarge).symm
    · rfl

end Sift.Binary64
