import Mathlib.Algebra.Group.Nat.Defs
import Mathlib.Order.Monotone.Basic
import Sift.Binary64.Rounding

/-! # Laws of rounding

The units of a magnitude grow with it, and what a double holds exactly is rounded to itself. Rounding
keeps the order of ratios; so equal ratios have one magnitude, however they are written, and what is at
least the value of infinity is rounded to infinity.
-/
namespace Sift.Binary64

theorem pow_fraction_pos : 0 < 2 ^ 52 := Nat.two_pow_pos 52

theorem exists_unitsPerOne_eq : ∃ k, unitsPerOne = 2 ^ k := ⟨1074, by decide +kernel⟩

theorem unitsPerOne_pos : 0 < unitsPerOne := by decide +kernel

/-! ## Units -/

theorem units_of_lt {m : Nat} (h : m < 2 ^ 53) : units m = m := by
  change (if m < 2 ^ 52 then m else (2 ^ 52 + m % 2 ^ 52) * 2 ^ (m / 2 ^ 52 - 1)) = m
  split
  · rfl
  · have hquotient : m / 2 ^ 52 = 1 := by omega
    rw [hquotient]
    omega

/-- The units of a magnitude with a fraction and an exponent above zero. -/
theorem units_add {f : Nat} (hf : f < 2 ^ 52) (k : Nat) :
    units ((k + 1) * 2 ^ 52 + f) = (2 ^ 52 + f) * 2 ^ k := by
  change (if (k + 1) * 2 ^ 52 + f < 2 ^ 52 then _ else
    (2 ^ 52 + ((k + 1) * 2 ^ 52 + f) % 2 ^ 52) * 2 ^ (((k + 1) * 2 ^ 52 + f) / 2 ^ 52 - 1)) = _
  have hquotient : ((k + 1) * 2 ^ 52 + f) / 2 ^ 52 = k + 1 := by omega
  have hrest : ((k + 1) * 2 ^ 52 + f) % 2 ^ 52 = f := by omega
  rw [if_neg (by omega), hquotient, hrest, Nat.add_sub_cancel]

/-- A magnitude below the smallest normal one, or one with a fraction and an exponent. -/
theorem magnitude_cases (m : Nat) :
    m < 2 ^ 52 ∨ ∃ k f, f < 2 ^ 52 ∧ m = (k + 1) * 2 ^ 52 + f := by
  by_cases h : m < 2 ^ 52
  · exact .inl h
  · exact .inr ⟨m / 2 ^ 52 - 1, m % 2 ^ 52, Nat.mod_lt _ pow_fraction_pos, by omega⟩

theorem units_strictMono : StrictMono units := by
  refine strictMono_nat_of_lt_succ fun m => ?_
  rcases magnitude_cases m with h | ⟨k, f, hf, rfl⟩
  · rw [units_of_lt (by omega), units_of_lt (by omega)]
    omega
  · have hpow := Nat.two_pow_pos k
    rw [units_add hf]
    by_cases hcarry : f + 1 < 2 ^ 52
    · rw [Nat.add_assoc, units_add hcarry]
      exact Nat.mul_lt_mul_of_pos_right (by omega) hpow
    · -- The fraction is full, and the next magnitude has the next exponent.
      have hnext : (k + 1) * 2 ^ 52 + f + 1 = (k + 1 + 1) * 2 ^ 52 + 0 := by omega
      have hdouble : 2 ^ (k + 1) = 2 * 2 ^ k := Nat.pow_succ'
      rw [hnext, units_add pow_fraction_pos, hdouble, ← Nat.mul_assoc]
      exact Nat.mul_lt_mul_of_pos_right (by omega) hpow

theorem units_pos_iff {m : Nat} : 0 < units m ↔ 0 < m := by
  have hzero : units 0 = 0 := units_of_lt (by decide)
  have hlt := units_strictMono.lt_iff_lt (a := 0) (b := m)
  rwa [hzero] at hlt

/-- Every number of at most 53 bits, times a power of two, is the units of a magnitude. -/
theorem exists_units_eq {a : Nat} (ha : a < 2 ^ 53) (k : Nat) : ∃ m, units m = a * 2 ^ k := by
  induction k with
  | zero => exact ⟨a, by rw [units_of_lt ha, Nat.pow_zero, Nat.mul_one]⟩
  | succ k ih =>
    obtain ⟨m, hm⟩ := ih
    have hdouble : a * 2 ^ (k + 1) = 2 * units m := by rw [hm, Nat.pow_succ', Nat.mul_left_comm]
    rw [hdouble]
    rcases magnitude_cases m with h | ⟨j, f, hf, rfl⟩
    · exact ⟨2 * m, by rw [units_of_lt (by omega), units_of_lt (by omega)]⟩
    · refine ⟨(j + 1 + 1) * 2 ^ 52 + f, ?_⟩
      have hpow : 2 ^ (j + 1) = 2 * 2 ^ j := Nat.pow_succ'
      rw [units_add hf, units_add hf, hpow, Nat.mul_left_comm]

/-! ## Quotients -/

theorem roundDiv_eq (n d : Nat) :
    roundDiv n d =
      if 2 * (n % d) < d ∨ 2 * (n % d) = d ∧ n / d % 2 = 0 then n / d else n / d + 1 := by
  simp [roundDiv]

theorem le_roundDiv (n d : Nat) : n / d ≤ roundDiv n d := by
  rw [roundDiv_eq]
  split <;> omega

theorem roundDiv_le (n d : Nat) : roundDiv n d ≤ n / d + 1 := by
  rw [roundDiv_eq]
  split <;> omega

theorem roundDiv_mul_self (q : Nat) {d : Nat} (hd : 0 < d) : roundDiv (q * d) d = q := by
  rw [roundDiv_eq, Nat.mul_mod_left, Nat.mul_div_cancel _ hd, if_pos (by omega)]

theorem roundDiv_mul_mul (n d : Nat) {k : Nat} (hk : 0 < k) : roundDiv (n * k) (d * k) = roundDiv n d := by
  have htwice : 2 * (n % d * k) = 2 * (n % d) * k := (Nat.mul_assoc ..).symm
  simp only [roundDiv_eq, Nat.mul_div_mul_right _ _ hk, Nat.mul_mod_mul_right, htwice,
    Nat.mul_lt_mul_right hk, Nat.mul_left_inj (Nat.ne_of_gt hk)]

theorem roundDiv_mono {n n' : Nat} (h : n ≤ n') (d : Nat) : roundDiv n d ≤ roundDiv n' d := by
  have hquotient : n / d ≤ n' / d := Nat.div_le_div_right h
  rcases Nat.lt_or_eq_of_le hquotient with hlt | heq
  · calc
      roundDiv n d ≤ n / d + 1 := roundDiv_le n d
      _ ≤ n' / d := hlt
      _ ≤ roundDiv n' d := le_roundDiv n' d
  · -- With one quotient it is the rests that decide.
    have hrest : n % d ≤ n' % d := by
      have hn := Nat.div_add_mod n d
      have hn' := Nat.div_add_mod n' d
      rw [← heq] at hn'
      omega
    rw [roundDiv_eq, roundDiv_eq, ← heq]
    split <;> split <;> omega

/-! ## Ratios -/

/-- The exponent of the power of two that a ratio is counted in, once it has more than 53 bits. -/
def ratioStep (n d : Nat) : Nat := Nat.log2 (n * unitsPerOne / d) - 52

/-- The bits of a ratio that are kept. -/
def ratioCount (n d : Nat) : Nat := roundDiv (n * unitsPerOne) (d * 2 ^ ratioStep n d)

theorem magnitudeOfRatio_eq (n d : Nat) :
    magnitudeOfRatio n d = min (ratioStep n d * 2 ^ 52 + ratioCount n d) infinityMagnitude := rfl

theorem ratioStep_mul_mul (n d : Nat) {k : Nat} (hk : 0 < k) : ratioStep (n * k) (d * k) = ratioStep n d := by
  rw [ratioStep, ratioStep, Nat.mul_right_comm, Nat.mul_div_mul_right _ _ hk]

theorem magnitudeOfRatio_mul_mul (n d : Nat) {k : Nat} (hk : 0 < k) :
    magnitudeOfRatio (n * k) (d * k) = magnitudeOfRatio n d := by
  rw [magnitudeOfRatio_eq, magnitudeOfRatio_eq, ratioCount, ratioCount, ratioStep_mul_mul n d hk,
    Nat.mul_right_comm, Nat.mul_right_comm d, roundDiv_mul_mul _ _ hk]

/-- With a step, the quotient has at least 53 bits. -/
theorem le_ratioQuotient {n d : Nat} (h : 0 < ratioStep n d) :
    2 ^ 52 ≤ n * unitsPerOne / (d * 2 ^ ratioStep n d) := by
  unfold ratioStep at h
  have hne : n * unitsPerOne / d ≠ 0 := by
    intro hzero
    rw [hzero] at h
    contradiction
  have hbits : 2 ^ 52 * 2 ^ ratioStep n d ≤ n * unitsPerOne / d := by
    rw [← Nat.pow_add]
    refine (Nat.le_log2 hne).mp ?_
    unfold ratioStep
    omega
  rw [← Nat.div_div_eq_div_mul]
  exact (Nat.le_div_iff_mul_le (Nat.two_pow_pos _)).mpr hbits

/-- Never has the quotient more than 53 bits. -/
theorem ratioQuotient_lt (n d : Nat) : n * unitsPerOne / (d * 2 ^ ratioStep n d) < 2 ^ 53 := by
  have hbits : n * unitsPerOne / d < 2 ^ 53 * 2 ^ ratioStep n d := by
    rw [← Nat.pow_add]
    refine Nat.lt_of_lt_of_le Nat.lt_log2_self (Nat.pow_le_pow_right (by decide) ?_)
    unfold ratioStep
    omega
  rw [← Nat.div_div_eq_div_mul]
  exact (Nat.div_lt_iff_lt_mul (Nat.two_pow_pos _)).mpr hbits

theorem le_ratioCount {n d : Nat} (h : 0 < ratioStep n d) : 2 ^ 52 ≤ ratioCount n d :=
  Nat.le_trans (le_ratioQuotient h) (le_roundDiv ..)

/-- Never are more than 53 bits kept, a carry excepted. -/
theorem ratioCount_le (n d : Nat) : ratioCount n d ≤ 2 ^ 53 :=
  Nat.le_trans (roundDiv_le ..) (ratioQuotient_lt n d)

theorem ratioStep_mono {n n' : Nat} (h : n ≤ n') (d : Nat) : ratioStep n d ≤ ratioStep n' d := by
  have hquotient : n * unitsPerOne / d ≤ n' * unitsPerOne / d :=
    Nat.div_le_div_right (Nat.mul_le_mul_right _ h)
  have hlog : Nat.log2 (n * unitsPerOne / d) ≤ Nat.log2 (n' * unitsPerOne / d) := by
    by_cases hzero : n * unitsPerOne / d = 0
    · rw [hzero]
      exact Nat.zero_le _
    · have hne : n' * unitsPerOne / d ≠ 0 := fun h' => hzero (Nat.le_zero.mp (h' ▸ hquotient))
      exact (Nat.le_log2 hne).mpr (Nat.le_trans (Nat.log2_self_le hzero) hquotient)
  unfold ratioStep
  omega

theorem magnitudeOfRatio_mono_left {n n' : Nat} (h : n ≤ n') (d : Nat) :
    magnitudeOfRatio n d ≤ magnitudeOfRatio n' d := by
  rw [magnitudeOfRatio_eq, magnitudeOfRatio_eq]
  have hsum : ratioStep n d * 2 ^ 52 + ratioCount n d ≤ ratioStep n' d * 2 ^ 52 + ratioCount n' d := by
    rcases Nat.lt_or_eq_of_le (ratioStep_mono h d) with hlt | heq
    · -- A longer step makes up for the bits that are kept.
      have hle := ratioCount_le n d
      have hge := le_ratioCount (n := n') (d := d) (by omega)
      omega
    · have hcount : ratioCount n d ≤ ratioCount n' d := by
        unfold ratioCount
        rw [heq]
        exact roundDiv_mono (Nat.mul_le_mul_right _ h) _
      omega
  omega

/-- Rounding keeps the order of ratios. -/
theorem magnitudeOfRatio_mono {n d n' d' : Nat} (hd : 0 < d) (hd' : 0 < d') (h : n * d' ≤ n' * d) :
    magnitudeOfRatio n d ≤ magnitudeOfRatio n' d' := by
  rw [← magnitudeOfRatio_mul_mul n d hd', ← magnitudeOfRatio_mul_mul n' d' hd, Nat.mul_comm d' d]
  exact magnitudeOfRatio_mono_left h _

theorem magnitudeOfRatio_congr {n d n' d' : Nat} (hd : 0 < d) (hd' : 0 < d') (h : n * d' = n' * d) :
    magnitudeOfRatio n d = magnitudeOfRatio n' d' :=
  Nat.le_antisymm (magnitudeOfRatio_mono hd hd' h.le) (magnitudeOfRatio_mono hd' hd h.ge)

theorem log2_significand_mul {f : Nat} (hf : f < 2 ^ 52) (k : Nat) :
    Nat.log2 ((2 ^ 52 + f) * 2 ^ k) = 52 + k := by
  have hpow := Nat.two_pow_pos k
  have hsucc : 52 + k + 1 = 53 + k := by omega
  refine (Nat.log2_eq_iff (Nat.ne_of_gt (Nat.mul_pos (by omega) hpow))).mpr ⟨?_, ?_⟩
  · rw [Nat.pow_add]
    exact Nat.mul_le_mul_right _ (by omega)
  · rw [hsucc, Nat.pow_add]
    exact Nat.mul_lt_mul_of_pos_right (by omega) hpow

/-- What a magnitude stands for is rounded to that magnitude. -/
theorem magnitudeOfRatio_units (m : Nat) :
    magnitudeOfRatio (units m) unitsPerOne = min m infinityMagnitude := by
  have hstep : ratioStep (units m) unitsPerOne = Nat.log2 (units m) - 52 := by
    rw [ratioStep, Nat.mul_div_cancel _ unitsPerOne_pos]
  have hcount : ratioCount (units m) unitsPerOne = roundDiv (units m) (2 ^ (Nat.log2 (units m) - 52)) := by
    rw [ratioCount, hstep, Nat.mul_comm unitsPerOne, roundDiv_mul_mul _ _ unitsPerOne_pos]
  rw [magnitudeOfRatio_eq, hcount, hstep]
  rcases magnitude_cases m with h | ⟨k, f, hf, rfl⟩
  · have hunits : units m = m := units_of_lt (by omega)
    have hlog : Nat.log2 m - 52 = 0 := by
      by_cases hzero : m = 0
      · rw [hzero]
        rfl
      · have hlt := (Nat.log2_lt hzero).mpr h
        omega
    have hself := roundDiv_mul_self m Nat.one_pos
    rw [Nat.mul_one] at hself
    rw [hunits, hlog, Nat.pow_zero, hself, Nat.zero_mul, Nat.zero_add]
  · have hsum : k * 2 ^ 52 + (2 ^ 52 + f) = (k + 1) * 2 ^ 52 + f := by omega
    rw [units_add hf, log2_significand_mul hf, Nat.add_sub_cancel_left,
      roundDiv_mul_self _ (Nat.two_pow_pos k), hsum]

/-- A ratio that is the value of a magnitude is rounded to that magnitude. -/
theorem magnitudeOfRatio_of_units_eq {n d m : Nat} (hd : 0 < d) (h : n * unitsPerOne = units m * d) :
    magnitudeOfRatio n d = min m infinityMagnitude := by
  rw [← magnitudeOfRatio_units, magnitudeOfRatio_congr hd unitsPerOne_pos h]

theorem magnitudeOfRatio_zero {d : Nat} (hd : 0 < d) : magnitudeOfRatio 0 d = 0 := by
  have hzero : units 0 = 0 := units_of_lt (by decide)
  rw [magnitudeOfRatio_of_units_eq (m := 0) hd (by rw [hzero, Nat.zero_mul, Nat.zero_mul]), Nat.zero_min]

/-- What is not below the value of infinity is rounded to infinity. -/
theorem magnitudeOfRatio_of_le {n d : Nat} (hd : 0 < d) (h : units infinityMagnitude * d ≤ n * unitsPerOne) :
    magnitudeOfRatio n d = infinityMagnitude := by
  refine Nat.le_antisymm (Nat.min_le_right _ _) ?_
  calc
    infinityMagnitude = magnitudeOfRatio (units infinityMagnitude) unitsPerOne := by
      rw [magnitudeOfRatio_units, Nat.min_self]
    _ ≤ magnitudeOfRatio n d := magnitudeOfRatio_mono unitsPerOne_pos hd h

/-- What is below half of the smallest positive double is rounded to zero. -/
theorem magnitudeOfRatio_of_lt {n d : Nat} (h : 2 * (n * unitsPerOne) < d) : magnitudeOfRatio n d = 0 := by
  have hlt : n * unitsPerOne < d := by omega
  have hstep : ratioStep n d = 0 := by
    rw [ratioStep, Nat.div_eq_of_lt hlt]
    rfl
  have hcount : ratioCount n d = 0 := by
    rw [ratioCount, hstep, Nat.pow_zero, Nat.mul_one, roundDiv_eq, Nat.mod_eq_of_lt hlt,
      Nat.div_eq_of_lt hlt, if_pos (.inl h)]
  rw [magnitudeOfRatio_eq, hstep, hcount, Nat.zero_mul, Nat.add_zero, Nat.zero_min]

end Sift.Binary64
