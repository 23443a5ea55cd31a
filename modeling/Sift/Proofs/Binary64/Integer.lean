import Sift.Proofs.Binary64.Rounding
import Sift.Proofs.Number.Order

/-! # Integers as doubles

An integer of at most 53 bits is a double, and becomes exactly that double. To read integers as doubles
keeps their order, and it keeps an integer of at most 53 bits apart from every other integer.
-/
namespace Sift.Binary64

/-- Integers below this magnitude are told apart from all others when they are read as doubles. -/
def exactLimit : Nat := 2 ^ 53

theorem isNegative_ofMagnitude (negative : Bool) (m : Nat) :
    (ofMagnitude negative m).isNegative = negative := by
  change decide (2 ^ 63 ≤ (UInt64.ofNat (m % 2 ^ 63 + if negative then 2 ^ 63 else 0)).toNat) = negative
  rw [UInt64.toNat_ofNat']
  cases negative
  · simp
    omega
  · simp
    omega

theorem scaled_ofMagnitude (negative : Bool) {m : Nat} (h : m ≤ infinityMagnitude) :
    (ofMagnitude negative m).scaled = if negative then -(units m : Int) else units m := by
  have hlt : m < 2 ^ 63 := Nat.lt_of_le_of_lt h infinityMagnitude_lt
  rw [scaled, isNegative_ofMagnitude, magnitude_ofMagnitude negative hlt]

theorem eq_of_parts {x y : Binary64} (hsign : x.isNegative = y.isNegative)
    (hmagnitude : x.magnitude = y.magnitude) : x = y := by
  have hsign' : 2 ^ 63 ≤ x.bits.toNat ↔ 2 ^ 63 ≤ y.bits.toNat := decide_eq_decide.mp hsign
  have hmagnitude' : x.bits.toNat % 2 ^ 63 = y.bits.toNat % 2 ^ 63 := hmagnitude
  have hx := x.bits.toNat_lt
  have hy := y.bits.toNat_lt
  have hbits : x.bits = y.bits := UInt64.toNat_inj.mp (by omega)
  cases x
  cases y
  exact congrArg mk hbits

/-- A double is known by its value, unless that is zero. -/
theorem eq_of_scaled_eq {x y : Binary64} (h : x.scaled = y.scaled) (hne : x.scaled ≠ 0) : x = y := by
  unfold scaled at h hne
  have hsign : x.isNegative = y.isNegative := by
    cases hx : x.isNegative <;> cases hy : y.isNegative
    · rfl
    · simp only [hx, hy, Bool.false_eq_true, if_false, if_true] at h hne
      omega
    · simp only [hx, hy, Bool.false_eq_true, if_false, if_true] at h hne
      omega
    · rfl
  have hunits : units x.magnitude = units y.magnitude := by
    rw [hsign] at h
    split at h <;> omega
  exact eq_of_parts hsign (units_strictMono.injective hunits)

theorem units_magnitudeOfRatio {n : Nat} (h : n ≤ exactLimit) :
    units (magnitudeOfRatio n 1) = n * unitsPerOne := by
  have hexact : ∃ m, units m = n * unitsPerOne := by
    obtain ⟨k, hk⟩ := exists_unitsPerOne_eq
    rw [hk]
    rcases Nat.lt_or_eq_of_le h with hlt | heq
    · exact exists_units_eq hlt k
    · rw [heq, exactLimit, ← Nat.pow_add, ← Nat.one_mul (2 ^ (53 + k))]
      exact exists_units_eq (by decide) _
  obtain ⟨m, hm⟩ := hexact
  have hfinite : m ≤ infinityMagnitude := by
    rw [← units_strictMono.le_iff_le, hm]
    exact Nat.le_trans (Nat.mul_le_mul_right _ h) (by decide +kernel)
  rw [magnitudeOfRatio_of_units_eq Nat.one_pos (by rw [Nat.mul_one, hm]), Nat.min_eq_left hfinite, hm]

theorem scaled_ofInt_eq (i : Int) :
    (ofInt i).scaled = if i < 0 then -(units (magnitudeOfRatio i.natAbs 1) : Int)
      else units (magnitudeOfRatio i.natAbs 1) := by
  rw [ofInt, scaled_ofMagnitude _ (magnitudeOfRatio_le _ _)]
  simp

/-- The units of an integer that is not rounded. -/
theorem mul_unitsPerOne_eq (i : Int) :
    i * unitsPerOne =
      if i < 0 then -((i.natAbs * unitsPerOne : Nat) : Int) else (i.natAbs * unitsPerOne : Nat) := by
  rw [Int.natCast_mul]
  split
  · rw [← Int.neg_mul]
    congr 1
    omega
  · congr 1
    omega

theorem scaled_ofInt {i : Int} (h : i.natAbs ≤ exactLimit) : (ofInt i).scaled = i * unitsPerOne := by
  rw [scaled_ofInt_eq, units_magnitudeOfRatio h, mul_unitsPerOne_eq]

/-- What is not below a magnitude is not rounded to below it. -/
theorem units_le_of_units_le {m n : Nat} (hm : m ≤ infinityMagnitude) (h : units m ≤ n * unitsPerOne) :
    units m ≤ units (magnitudeOfRatio n 1) := by
  refine units_strictMono.monotone ?_
  calc
    m = magnitudeOfRatio (units m) unitsPerOne := by rw [magnitudeOfRatio_units, Nat.min_eq_left hm]
    _ ≤ magnitudeOfRatio n 1 := magnitudeOfRatio_mono unitsPerOne_pos Nat.one_pos (by rwa [Nat.mul_one])

theorem units_le_of_le_units {m n : Nat} (h : n * unitsPerOne ≤ units m) :
    units (magnitudeOfRatio n 1) ≤ units m := by
  refine units_strictMono.monotone ?_
  calc
    magnitudeOfRatio n 1 ≤ magnitudeOfRatio (units m) unitsPerOne :=
      magnitudeOfRatio_mono Nat.one_pos unitsPerOne_pos (by rwa [Nat.mul_one])
    _ ≤ m := by
      rw [magnitudeOfRatio_units]
      exact Nat.min_le_left _ _

/-- An integer is rounded to the same side of a double, or to the double. -/
theorem scaled_ofInt_side {x : Binary64} (hx : x.isNaN = false) (i : Int) :
    (x.scaled ≤ i * unitsPerOne → x.scaled ≤ (ofInt i).scaled) ∧
    (i * unitsPerOne ≤ x.scaled → (ofInt i).scaled ≤ x.scaled) := by
  have hm : x.magnitude ≤ infinityMagnitude := not_lt.mp (of_decide_eq_false hx)
  have hbelow := units_le_of_units_le (n := i.natAbs) hm
  have habove := units_le_of_le_units (m := x.magnitude) (n := i.natAbs)
  rw [scaled_ofInt_eq, mul_unitsPerOne_eq, scaled]
  constructor <;> intro h <;> split_ifs at h ⊢ <;> omega

theorem scaled_ofInt_mono {i j : Int} (h : i ≤ j) : (ofInt i).scaled ≤ (ofInt j).scaled := by
  have hunits : ∀ {m n : Nat}, m ≤ n → units (magnitudeOfRatio m 1) ≤ units (magnitudeOfRatio n 1) :=
    fun hmn => units_strictMono.monotone (magnitudeOfRatio_mono_left hmn 1)
  rw [scaled_ofInt_eq, scaled_ofInt_eq]
  split
  · split
    · have := hunits (m := j.natAbs) (n := i.natAbs) (by omega)
      omega
    · omega
  · rw [if_neg (by omega)]
    have := hunits (m := i.natAbs) (n := j.natAbs) (by omega)
    omega

theorem scaled_ofInt_lt {i j : Int} (h : i < j) (hlimit : i.natAbs < exactLimit ∨ j.natAbs < exactLimit) :
    (ofInt i).scaled < (ofInt j).scaled := by
  have hpos : (0 : Int) < unitsPerOne := Int.natCast_pos.mpr unitsPerOne_pos
  -- The neighbour of the smaller magnitude on the side of the other integer is exact as well.
  rcases hlimit with hi | hj
  · calc
      (ofInt i).scaled < (ofInt (i + 1)).scaled := by
        rw [scaled_ofInt (by omega), scaled_ofInt (by omega)]
        exact Int.mul_lt_mul_of_pos_right (by omega) hpos
      _ ≤ (ofInt j).scaled := scaled_ofInt_mono h
  · calc
      (ofInt i).scaled ≤ (ofInt (j - 1)).scaled := scaled_ofInt_mono (by omega)
      _ < (ofInt j).scaled := by
        rw [scaled_ofInt (by omega), scaled_ofInt (by omega)]
        exact Int.mul_lt_mul_of_pos_right (by omega) hpos

/-- As doubles, an integer below the limit has the same order against every other integer. -/
theorem compare_scaled_ofInt {i : Int} (h : i.natAbs < exactLimit) (k : Int) :
    compare (ofInt k).scaled (ofInt i).scaled = compare k i := by
  rcases lt_trichotomy k i with hlt | rfl | hgt
  · rw [compare_lt_iff_lt.mpr hlt, compare_lt_iff_lt.mpr (scaled_ofInt_lt hlt (.inr h))]
  · rw [compare_eq_iff_eq.mpr rfl, compare_eq_iff_eq.mpr rfl]
  · rw [compare_gt_iff_gt.mpr hgt, compare_gt_iff_gt.mpr (scaled_ofInt_lt hgt (.inl h))]

theorem eq_of_scaled_ofInt_eq {i k : Int} (h : i.natAbs < exactLimit)
    (heq : (ofInt k).scaled = (ofInt i).scaled) : k = i := by
  have hcompare := compare_scaled_ofInt h k
  rw [heq, compare_eq_iff_eq.mpr rfl] at hcompare
  exact compare_eq_iff_eq.mp hcompare.symm

theorem eq_of_magnitudeOfRatio_eq {n k : Nat} (h : n < exactLimit)
    (heq : magnitudeOfRatio k 1 = magnitudeOfRatio n 1) : k = n := by
  have hscaled : (ofInt k).scaled = (ofInt n).scaled := by
    rw [scaled_ofInt_eq, scaled_ofInt_eq, if_neg (by omega), if_neg (by omega), Int.natAbs_natCast,
      Int.natAbs_natCast, heq]
  have hk := eq_of_scaled_ofInt_eq (i := n) (by rwa [Int.natAbs_natCast]) hscaled
  omega

end Sift.Binary64
