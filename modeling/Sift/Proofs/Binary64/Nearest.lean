import Mathlib.Algebra.Order.Field.Basic
import Mathlib.Algebra.Order.Field.Rat
import Mathlib.Tactic.FieldSimp
import Mathlib.Tactic.Linarith
import Sift.Proofs.Decimal.Rounding

/-! # The nearest double

Rounding finds the nearest magnitude. Infinity takes part in it with the value that would follow the
largest finite double, so that overflow is no case of its own; and of two magnitudes that are equally near
the even one is taken. A value has one nearest magnitude, and with the sign that is one double.
-/
namespace Sift
namespace Binary64

/-- The value that a magnitude stands for. -/
def value (m : Nat) : ℚ := units m / unitsPerOne

/-- No magnitude is nearer to `q`, and another one as near makes this one even. -/
structure IsNearest (q : ℚ) (m : Nat) : Prop where
  le_infinity : m ≤ infinityMagnitude
  closest : ∀ k ≤ infinityMagnitude, |q - value m| ≤ |q - value k|
  even_of_tie : ∀ k ≤ infinityMagnitude, k ≠ m → |q - value k| = |q - value m| → m % 2 = 0

/-- The double that is nearest to the value with this sign and absolute value. -/
structure RoundsTo (x : Binary64) (negative : Bool) (q : ℚ) : Prop where
  sign : x.isNegative = negative
  nearest : IsNearest q x.magnitude

/-! ## Distances

A ratio is counted in units, and distances to it are compared after multiplication with its denominator.
-/

/-- How far the units of a magnitude are from the count `c / d`, in parts of `1 / d`. -/
def distance (c d m : Nat) : Nat := ((c : Int) - (units m * d : Nat)).natAbs

theorem distance_of_le {c d m : Nat} (h : units m * d ≤ c) : distance c d m = c - units m * d := by
  unfold distance
  omega

theorem distance_of_ge {c d m : Nat} (h : c ≤ units m * d) : distance c d m = units m * d - c := by
  unfold distance
  omega

theorem units_mul_lt {k m d : Nat} (hd : 0 < d) (h : k < m) : units k * d < units m * d :=
  Nat.mul_lt_mul_of_pos_right (units_strictMono h) hd

/-- On one side of the count, what is farther away is less near. -/
theorem distance_lt_of_below {c d m k : Nat} (hd : 0 < d) (hm : units m * d ≤ c) (hk : k < m) :
    distance c d m < distance c d k := by
  have hlt := units_mul_lt hd hk
  rw [distance_of_le hm, distance_of_le (hlt.le.trans hm)]
  omega

theorem distance_lt_of_above {c d m k : Nat} (hd : 0 < d) (hm : c ≤ units m * d) (hk : m < k) :
    distance c d m < distance c d k := by
  have hlt := units_mul_lt hd hk
  rw [distance_of_ge hm, distance_of_ge (hm.trans hlt.le)]
  omega

/-! ## The rounded ratio -/

/-- A count of at most 53 bits in steps of a power of two, which are all needed if there is a step. -/
theorem units_step {s a : Nat} (h : 0 < s → 2 ^ 52 ≤ a) (ha : a ≤ 2 ^ 53) :
    units (s * 2 ^ 52 + a) = a * 2 ^ s := by
  have hcarry : 2 ^ 53 * 2 ^ s = 2 ^ 52 * 2 ^ (s + 1) := by
    rw [← Nat.pow_add, ← Nat.pow_add]
    congr 1
    omega
  rcases Nat.lt_or_eq_of_le ha with hlt | rfl
  · by_cases hlow : a < 2 ^ 52
    · obtain rfl : s = 0 := by omega
      rw [Nat.zero_mul, Nat.zero_add, units_of_lt hlt, Nat.pow_zero, Nat.mul_one]
    · have hsum : s * 2 ^ 52 + a = (s + 1) * 2 ^ 52 + (a - 2 ^ 52) := by omega
      rw [hsum, units_add (by omega), Nat.add_sub_cancel' (by omega)]
  · have hsum : s * 2 ^ 52 + 2 ^ 53 = (s + 1 + 1) * 2 ^ 52 + 0 := by omega
    rw [hsum, units_add pow_fraction_pos, hcarry, Nat.add_zero]

/-- The magnitude of a ratio if there were no largest one. -/
def unboundedMagnitude (n d : Nat) : Nat := ratioStep n d * 2 ^ 52 + ratioCount n d

/-- The count lies between two neighbours, and the rest of its quotient says which one is nearer. -/
theorem unboundedMagnitude_cases (n d : Nat) (hd : 0 < d) :
    ∃ low rest step, units low * d + rest = n * unitsPerOne ∧
      units (low + 1) * d + rest = n * unitsPerOne + step ∧ rest < step ∧
      (unboundedMagnitude n d = low ∧ (2 * rest < step ∨ 2 * rest = step ∧ low % 2 = 0) ∨
        unboundedMagnitude n d = low + 1 ∧ (step < 2 * rest ∨ 2 * rest = step ∧ low % 2 = 1)) := by
  obtain ⟨s, hs⟩ : ∃ s, ratioStep n d = s := ⟨_, rfl⟩
  obtain ⟨a, ha⟩ : ∃ a, n * unitsPerOne / (d * 2 ^ s) = a := ⟨_, rfl⟩
  have hhigh : a < 2 ^ 53 := by
    have hlt := ratioQuotient_lt n d
    rwa [hs, ha] at hlt
  have hlow : 0 < s → 2 ^ 52 ≤ a := by
    intro hpos
    have hle := le_ratioQuotient (n := n) (d := d) (by rwa [hs])
    rwa [hs, ha] at hle
  have hfloor : units (s * 2 ^ 52 + a) * d = d * 2 ^ s * a := by
    rw [units_step hlow hhigh.le, Nat.mul_comm, Nat.mul_comm a, Nat.mul_assoc]
  have hceil : units (s * 2 ^ 52 + a + 1) * d = d * 2 ^ s * (a + 1) := by
    rw [Nat.add_assoc, units_step (fun hpos => (hlow hpos).trans (Nat.le_succ a)) hhigh, Nat.mul_comm,
      Nat.mul_comm (a + 1), Nat.mul_assoc]
  have hdivision := Nat.div_add_mod (n * unitsPerOne) (d * 2 ^ s)
  rw [ha] at hdivision
  have hrest : n * unitsPerOne % (d * 2 ^ s) < d * 2 ^ s :=
    Nat.mod_lt _ (Nat.mul_pos hd (Nat.two_pow_pos s))
  refine ⟨s * 2 ^ 52 + a, n * unitsPerOne % (d * 2 ^ s), d * 2 ^ s, ?_, ?_, hrest, ?_⟩
  · rw [hfloor, hdivision]
  · rw [hceil, Nat.mul_succ]
    omega
  · rw [unboundedMagnitude, ratioCount, hs, roundDiv_eq, ha]
    split <;> omega

/-- Without a largest magnitude the rounded one is nearest, and even if it is not the only one. -/
theorem distance_unboundedMagnitude (n : Nat) {d : Nat} (hd : 0 < d) (k : Nat) :
    distance (n * unitsPerOne) d (unboundedMagnitude n d) ≤ distance (n * unitsPerOne) d k ∧
    (k ≠ unboundedMagnitude n d →
      distance (n * unitsPerOne) d k = distance (n * unitsPerOne) d (unboundedMagnitude n d) →
      unboundedMagnitude n d % 2 = 0) := by
  obtain ⟨low, rest, step, hlow, hhigh, hrest, hrounded⟩ := unboundedMagnitude_cases n d hd
  have hbelow : units low * d ≤ n * unitsPerOne := by omega
  have habove : n * unitsPerOne ≤ units (low + 1) * d := by omega
  have hfloor : distance (n * unitsPerOne) d low = rest := by
    rw [distance_of_le hbelow]
    omega
  have hceil : distance (n * unitsPerOne) d (low + 1) = step - rest := by
    rw [distance_of_ge habove]
    omega
  -- All others are behind one of the two neighbours.
  have hothers : k = low ∨ k = low + 1 ∨ rest < distance (n * unitsPerOne) d k ∧ k < low ∨
      step - rest < distance (n * unitsPerOne) d k ∧ low + 1 < k := by
    rcases lt_trichotomy k low with hk | hk | hk
    · exact .inr (.inr (.inl ⟨hfloor ▸ distance_lt_of_below hd hbelow hk, hk⟩))
    · exact .inl hk
    · rcases Nat.lt_or_eq_of_le hk with hk | hk
      · exact .inr (.inr (.inr ⟨hceil ▸ distance_lt_of_above hd habove hk, hk⟩))
      · exact .inr (.inl hk.symm)
  rcases hrounded with ⟨hm, hnear⟩ | ⟨hm, hnear⟩
  · rw [hm, hfloor]
    rcases hothers with rfl | rfl | hk | hk <;> omega
  · rw [hm, hceil]
    rcases hothers with rfl | rfl | hk | hk <;> omega

/-- Infinity is nearest to what would have a magnitude above it. -/
theorem distance_magnitudeOfRatio (n : Nat) {d : Nat} (hd : 0 < d) {k : Nat} (hk : k ≤ infinityMagnitude) :
    distance (n * unitsPerOne) d (magnitudeOfRatio n d) ≤ distance (n * unitsPerOne) d k ∧
    (k ≠ magnitudeOfRatio n d →
      distance (n * unitsPerOne) d k = distance (n * unitsPerOne) d (magnitudeOfRatio n d) →
      magnitudeOfRatio n d % 2 = 0) := by
  have hmin : magnitudeOfRatio n d = min (unboundedMagnitude n d) infinityMagnitude := rfl
  rcases le_or_gt (unboundedMagnitude n d) infinityMagnitude with hle | hgt
  · rw [hmin, Nat.min_eq_left hle]
    exact distance_unboundedMagnitude n hd k
  · rw [hmin, Nat.min_eq_right hgt.le]
    have hbelow : units infinityMagnitude * d ≤ n * unitsPerOne := by
      by_contra hno
      have hlt := distance_lt_of_above hd (not_le.mp hno).le hgt
      have hle := (distance_unboundedMagnitude n hd infinityMagnitude).1
      omega
    rcases Nat.lt_or_eq_of_le hk with hlt | rfl
    · have hfar := distance_lt_of_below hd hbelow hlt
      omega
    · exact ⟨Nat.le_refl _, fun hne => absurd rfl hne⟩

/-- The distance to a ratio is counted in units of its denominator. -/
theorem abs_sub_value (n : Nat) {d : Nat} (hd : 0 < d) (m : Nat) :
    |(n / d : ℚ) - value m| = distance (n * unitsPerOne) d m / (d * unitsPerOne) := by
  have hpos : (0 : ℚ) < unitsPerOne := Nat.cast_pos.mpr unitsPerOne_pos
  have hdpos : (0 : ℚ) < d := Nat.cast_pos.mpr hd
  have hfraction : (n / d : ℚ) - value m =
      (((n * unitsPerOne : Nat) : Int) - (units m * d : Nat) : Int) / (d * unitsPerOne) := by
    rw [value]
    field_simp
    push_cast
    rw [mul_comm (d : ℚ)]
  rw [hfraction, abs_div, abs_of_pos (mul_pos hdpos hpos), distance, Nat.cast_natAbs, Int.cast_abs]

theorem isNearest_magnitudeOfRatio (n : Nat) {d : Nat} (hd : 0 < d) :
    IsNearest (n / d) (magnitudeOfRatio n d) := by
  have hscale : (0 : ℚ) < d * unitsPerOne :=
    mul_pos (Nat.cast_pos.mpr hd) (Nat.cast_pos.mpr unitsPerOne_pos)
  refine ⟨magnitudeOfRatio_le n d, fun k hk => ?_, fun k hk hne htie => ?_⟩
  · rw [abs_sub_value n hd, abs_sub_value n hd, div_le_div_iff_of_pos_right hscale, Nat.cast_le]
    exact (distance_magnitudeOfRatio n hd hk).1
  · rw [abs_sub_value n hd, abs_sub_value n hd, div_left_inj' hscale.ne', Nat.cast_inj] at htie
    exact (distance_magnitudeOfRatio n hd hk).2 hne htie

/-! ## One nearest double -/

theorem value_strictMono : StrictMono value := by
  intro m k h
  have hpos : (0 : ℚ) < unitsPerOne := Nat.cast_pos.mpr unitsPerOne_pos
  exact div_lt_div_of_pos_right (Nat.cast_lt.mpr (units_strictMono h)) hpos

/-- Between two even magnitudes that are equally near stands a nearer one. -/
theorem IsNearest.le {q : ℚ} {m k : Nat} (hm : IsNearest q m) (hk : IsNearest q k) : k ≤ m := by
  by_contra hgt
  have hlt : m < k := not_le.mp hgt
  have htie : |q - value m| = |q - value k| :=
    le_antisymm (hm.closest k hk.le_infinity) (hk.closest m hm.le_infinity)
  have hmeven := hm.even_of_tie k hk.le_infinity hlt.ne' htie.symm
  have hkeven := hk.even_of_tie m hm.le_infinity hlt.ne htie
  have hbetween : m + 1 < k := by omega
  have hleft := value_strictMono (Nat.lt_succ_self m)
  have hright := value_strictMono hbetween
  have hmiddle : q - value m = -(q - value k) := by
    refine (abs_eq_abs.mp htie).resolve_left fun heq => ?_
    linarith
  have hnearer : |q - value (m + 1)| < |q - value m| := by
    rw [abs_of_pos (by linarith : 0 < q - value m), abs_lt]
    constructor <;> linarith
  exact absurd (hm.closest (m + 1) (hbetween.le.trans hk.le_infinity)) (not_le.mpr hnearer)

theorem IsNearest.unique {q : ℚ} {m k : Nat} (hm : IsNearest q m) (hk : IsNearest q k) : m = k :=
  Nat.le_antisymm (hk.le hm) (hm.le hk)

theorem RoundsTo.unique {negative : Bool} {q : ℚ} {x y : Binary64} (hx : x.RoundsTo negative q)
    (hy : y.RoundsTo negative q) : x = y :=
  eq_of_parts (hx.sign.trans hy.sign.symm) (hx.nearest.unique hy.nearest)

theorem roundsTo_ofMagnitude (negative : Bool) {q : ℚ} {m : Nat} (h : IsNearest q m) :
    (ofMagnitude negative m).RoundsTo negative q := by
  refine ⟨isNegative_ofMagnitude negative m, ?_⟩
  rwa [magnitude_ofMagnitude negative (Nat.lt_of_le_of_lt h.le_infinity infinityMagnitude_lt)]

theorem roundsTo_ofInt (i : Int) : (ofInt i).RoundsTo (i < 0) i.natAbs := by
  have hnearest := isNearest_magnitudeOfRatio i.natAbs Nat.one_pos
  rw [Nat.cast_one, div_one] at hnearest
  exact roundsTo_ofMagnitude _ hnearest

/-- A decimal is read as the double that is nearest to it. -/
theorem roundsTo_ofDecimal (negative : Bool) (m : Nat) (e : Int) :
    (ofDecimal negative m e).RoundsTo negative (m * 10 ^ e) := by
  have hten : (10 : ℚ) ≠ 0 := by norm_num
  have hratio : (m * 10 ^ e : ℚ) = (m * 10 ^ e.toNat : Nat) / (10 ^ (-e).toNat : Nat) := by
    have hexponent : e = (e.toNat : Int) - ((-e).toNat : Int) := by omega
    have hpower : (10 : ℚ) ^ e = 10 ^ e.toNat / 10 ^ (-e).toNat := by
      conv_lhs => rw [hexponent, zpow_sub₀ hten, zpow_natCast, zpow_natCast]
    rw [hpower, Nat.cast_mul, Nat.cast_pow, Nat.cast_pow, Nat.cast_ofNat, mul_div_assoc]
  rw [ofDecimal_eq, hratio, magnitudeOfDecimal_eq]
  exact roundsTo_ofMagnitude negative (isNearest_magnitudeOfRatio _ (Nat.pow_pos (by decide)))

end Binary64

theorem Numeral.roundsTo_toBinary64 (x : Numeral) :
    x.toBinary64.RoundsTo x.negative (x.mantissa * 10 ^ x.exponent) :=
  Binary64.roundsTo_ofDecimal _ _ _

end Sift
