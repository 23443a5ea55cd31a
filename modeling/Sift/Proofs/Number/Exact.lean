import Mathlib.Order.WithBotTop
import Sift.Proofs.Binary64.Nearest
import Sift.Proofs.Number.Reading

/-! # The exact order

Every number but a not-a-number has an exact value: integers and finite doubles are rational, and the
infinities lie at the two ends. The order of two numbers never contradicts that of their values. Integers
are compared exactly; next to a double an integer is rounded first, which may make equal what is not, but
never turns an order around. So to be less is transitive, even through a double between two integers.
-/
namespace Sift

namespace Binary64

/-- The exact value of a double, if it is a number. -/
def exactValue? (x : Binary64) : Option (WithBotTop ℚ) :=
  if x.isNaN then none
  else if x.isInfinite then some (if x.isNegative then ⊥ else ⊤)
  else some ((x.scaled / unitsPerOne : ℚ) : WithBotTop ℚ)

end Binary64

namespace Number

/-- The exact value of a number, if it is one. -/
def exactValue? : Number → Option (WithBotTop ℚ)
  | signed n => some ((n.toInt : ℚ) : WithBotTop ℚ)
  | unsigned n => some ((n.toNat : ℚ) : WithBotTop ℚ)
  | float x => x.exactValue?

/-! ## Counts

The exact values are ordered like their counts of units, with infinity at the count that would follow the
largest finite double.
-/

def infinityCount : Int := Binary64.units Binary64.infinityMagnitude

/-- The units of a number, without rounding. -/
def count : Number → Int
  | signed n => n.toInt * Binary64.unitsPerOne
  | unsigned n => n.toNat * Binary64.unitsPerOne
  | float x => x.scaled

/-- The value of a count of units. -/
def valueOfCount (c : Int) : WithBotTop ℚ :=
  if c ≤ -infinityCount then ⊥ else if infinityCount ≤ c then ⊤ else (c / Binary64.unitsPerOne : ℚ)

theorem valueOfCount_lt {c d : Int} (hc : -infinityCount ≤ c) (hd : d ≤ infinityCount) (h : c < d) :
    valueOfCount c < valueOfCount d := by
  have hpos : (0 : ℚ) < Binary64.unitsPerOne := Nat.cast_pos.mpr Binary64.unitsPerOne_pos
  unfold valueOfCount
  rw [if_neg (show ¬ d ≤ -_ by omega), if_neg (show ¬ _ ≤ c by omega)]
  split_ifs
  · exact bot_lt_top
  · exact WithBot.bot_lt_coe _
  · exact WithBot.coe_lt_coe.mpr (WithTop.coe_lt_top _)
  · exact WithBot.coe_lt_coe.mpr (WithTop.coe_lt_coe.mpr (div_lt_div_of_pos_right (Int.cast_lt.mpr h) hpos))

/-- No word holds an integer as large as infinity. -/
theorem mul_unitsPerOne_lt {n : Number} {i : Int} (h : n.toInt? = some i) :
    -infinityCount < i * Binary64.unitsPerOne ∧ i * Binary64.unitsPerOne < infinityCount := by
  have hlimit : 2 ^ 64 * Binary64.unitsPerOne < Binary64.units Binary64.infinityMagnitude := by
    decide +kernel
  have hi : i.natAbs ≤ 2 ^ 64 := by
    cases n with
    | signed n =>
      obtain rfl := Option.some.inj h
      have hlow := n.le_toInt
      have hhigh := n.toInt_lt
      omega
    | unsigned n =>
      obtain rfl := Option.some.inj h
      have hhigh := n.toNat_lt
      omega
    | float x => cases h
  have hle : (i * (Binary64.unitsPerOne : Int)).natAbs ≤ 2 ^ 64 * Binary64.unitsPerOne := by
    rw [Int.natAbs_mul, Int.natAbs_natCast]
    exact Nat.mul_le_mul_right _ hi
  unfold infinityCount
  omega

theorem count_of_toInt? {n : Number} {i : Int} (h : n.toInt? = some i) :
    n.count = i * Binary64.unitsPerOne := by
  cases n with
  | signed n | unsigned n =>
    obtain rfl := Option.some.inj h
    rfl
  | float x => cases h

theorem exactValue?_of_toInt? {n : Number} {i : Int} (h : n.toInt? = some i) :
    n.exactValue? = some (valueOfCount (i * Binary64.unitsPerOne)) := by
  have hne : (Binary64.unitsPerOne : ℚ) ≠ 0 := Nat.cast_ne_zero.mpr (Nat.ne_of_gt Binary64.unitsPerOne_pos)
  have hvalue : n.exactValue? = some ((i : ℚ) : WithBotTop ℚ) := by
    cases n with
    | signed n | unsigned n =>
      obtain rfl := Option.some.inj h
      rfl
    | float x => cases h
  obtain ⟨hlow, hhigh⟩ := mul_unitsPerOne_lt h
  rw [hvalue, valueOfCount, if_neg (not_le.mpr hlow), if_neg (not_le.mpr hhigh)]
  push_cast
  rw [mul_div_cancel_right₀ _ hne]

theorem scaled_mem {x : Binary64} (h : x.isNaN = false) :
    -infinityCount ≤ x.scaled ∧ x.scaled ≤ infinityCount := by
  have hle : x.magnitude ≤ Binary64.infinityMagnitude := not_lt.mp (of_decide_eq_false h)
  have hunits := Binary64.units_strictMono.monotone hle
  unfold infinityCount Binary64.scaled
  split <;> omega

theorem exactValue?_float {x : Binary64} (h : x.isNaN = false) :
    (float x).exactValue? = some (valueOfCount x.scaled) := by
  have hpos : 0 < Binary64.units Binary64.infinityMagnitude := Binary64.units_pos_iff.mpr (by decide)
  have hle : x.magnitude ≤ Binary64.infinityMagnitude := not_lt.mp (of_decide_eq_false h)
  rw [exactValue?, Binary64.exactValue?, h, if_neg Bool.false_ne_true]
  rcases Nat.lt_or_eq_of_le hle with hlt | heq
  · have hfinite : x.isInfinite = false := beq_eq_false_iff_ne.mpr (Nat.ne_of_lt hlt)
    have hunits := Binary64.units_strictMono hlt
    have hinside : -infinityCount < x.scaled ∧ x.scaled < infinityCount := by
      unfold infinityCount Binary64.scaled
      split <;> omega
    rw [hfinite, if_neg Bool.false_ne_true, valueOfCount, if_neg (not_le.mpr hinside.1),
      if_neg (not_le.mpr hinside.2)]
  · have hinfinite : x.isInfinite = true := beq_iff_eq.mpr heq
    rw [hinfinite, if_pos rfl, Binary64.scaled, heq, valueOfCount, infinityCount]
    cases x.isNegative with
    | true => rw [if_pos rfl, if_pos rfl, if_pos (Int.le_refl _)]
    | false =>
      rw [if_neg Bool.false_ne_true, if_neg Bool.false_ne_true, if_neg (by omega), if_pos (Int.le_refl _)]

/-- The exact values of two numbers are ordered like their counts. -/
theorem exists_exactValue? {n : Number} (h : n.isNaN = false) :
    n.exactValue? = some (valueOfCount n.count) ∧ -infinityCount ≤ n.count ∧ n.count ≤ infinityCount := by
  cases hi : n.toInt? with
  | some i =>
    obtain ⟨hlow, hhigh⟩ := mul_unitsPerOne_lt hi
    rw [count_of_toInt? hi]
    exact ⟨exactValue?_of_toInt? hi, hlow.le, hhigh.le⟩
  | none =>
    cases n with
    | signed _ | unsigned _ => cases hi
    | float x => exact ⟨exactValue?_float h, scaled_mem h⟩

/-! ## Comparison -/

variable {a b c : Number}

theorem compare?_of_toInt?_eq_none (h : a.toInt? = none ∨ b.toInt? = none) :
    a.compare? b = a.toBinary64.compare? b.toBinary64 := by
  unfold compare?
  rcases h with h | h
  · rw [h]
  · rw [h]
    cases a.toInt? <;> rfl

theorem isNaN_of_compare? {o : Ordering} (h : a.compare? b = some o) : a.isNaN = false ∧ b.isNaN = false := by
  have hne : ¬ (a.isNaN = true ∨ b.isNaN = true) := by
    rw [← compare?_eq_none_iff, h]
    exact Option.some_ne_none o
  simpa using hne

theorem compare_scaled_of_compare? {o : Ordering} (hdouble : a.toInt? = none ∨ b.toInt? = none)
    (h : a.compare? b = some o) : compare a.toBinary64.scaled b.toBinary64.scaled = o := by
  rw [compare?_of_toInt?_eq_none hdouble] at h
  exact Option.some.inj (Option.ite_none_left_eq_some.mp h).2

theorem scaled_lt_of_lt (hdouble : a.toInt? = none ∨ b.toInt? = none) (h : a.compare? b = some .lt) :
    a.toBinary64.scaled < b.toBinary64.scaled :=
  compare_lt_iff_lt.mp (compare_scaled_of_compare? hdouble h)

theorem lt_of_lt_toInt? {i j : Int} (ha : a.toInt? = some i) (hb : b.toInt? = some j)
    (h : a.compare? b = some .lt) : i < j := by
  rw [compare?_of_toInt? ha hb] at h
  exact compare_lt_iff_lt.mp (Option.some.inj h)

/-- What is less is not greater when both are read as doubles. -/
theorem scaled_le_of_lt (h : a.compare? b = some .lt) : a.toBinary64.scaled ≤ b.toBinary64.scaled := by
  cases ha : a.toInt? with
  | none => exact (scaled_lt_of_lt (.inl ha) h).le
  | some i =>
    cases hb : b.toInt? with
    | none => exact (scaled_lt_of_lt (.inr hb) h).le
    | some j =>
      rw [toBinary64_of_toInt? ha, toBinary64_of_toInt? hb]
      exact Binary64.scaled_ofInt_mono (lt_of_lt_toInt? ha hb h).le

theorem lt_of_scaled_lt (ha : a.isNaN = false) (hb : b.isNaN = false)
    (h : a.toBinary64.scaled < b.toBinary64.scaled) : a.compare? b = some .lt := by
  have hdoubles : a.toBinary64.compare? b.toBinary64 = some .lt := by
    rw [Binary64.compare?, isNaN_toBinary64, isNaN_toBinary64, ha, hb, compare_lt_iff_lt.mpr h]
    rfl
  cases hi : a.toInt? with
  | none => rwa [compare?_of_toInt?_eq_none (.inl hi)]
  | some i =>
    cases hj : b.toInt? with
    | none => rwa [compare?_of_toInt?_eq_none (.inr hj)]
    | some j =>
      rw [toBinary64_of_toInt? hi, toBinary64_of_toInt? hj] at h
      have hlt : i < j := not_le.mp fun hle => absurd (Binary64.scaled_ofInt_mono hle) (not_le.mpr h)
      rw [compare?_of_toInt? hi hj, compare_lt_iff_lt.mpr hlt]

/-- To be less is transitive: a double between two integers keeps them apart as doubles already. -/
theorem lt_trans_of_compare? (hab : a.compare? b = some .lt) (hbc : b.compare? c = some .lt) :
    a.compare? c = some .lt := by
  obtain ⟨ha, -⟩ := isNaN_of_compare? hab
  obtain ⟨-, hc⟩ := isNaN_of_compare? hbc
  by_cases hdouble : a.toInt? = none ∨ b.toInt? = none ∨ c.toInt? = none
  · have hlt : a.toBinary64.scaled < c.toBinary64.scaled := by
      rcases hdouble with h | h | h
      · exact (scaled_lt_of_lt (.inl h) hab).trans_le (scaled_le_of_lt hbc)
      · exact (scaled_lt_of_lt (.inr h) hab).trans_le (scaled_le_of_lt hbc)
      · exact (scaled_le_of_lt hab).trans_lt (scaled_lt_of_lt (.inr h) hbc)
    exact lt_of_scaled_lt ha hc hlt
  · simp only [not_or, Option.ne_none_iff_exists'] at hdouble
    obtain ⟨⟨i, hi⟩, ⟨j, hj⟩, k, hk⟩ := hdouble
    have hlt := (lt_of_lt_toInt? hi hj hab).trans (lt_of_lt_toInt? hj hk hbc)
    rw [compare?_of_toInt? hi hk, compare_lt_iff_lt.mpr hlt]

/-- Rounding does not turn an order around. -/
theorem count_lt_of_lt (h : a.compare? b = some .lt) : a.count < b.count := by
  obtain ⟨ha, hb⟩ := isNaN_of_compare? h
  cases hi : a.toInt? with
  | some i =>
    cases hj : b.toInt? with
    | some j =>
      rw [count_of_toInt? hi, count_of_toInt? hj]
      exact Int.mul_lt_mul_of_pos_right (lt_of_lt_toInt? hi hj h)
        (Int.natCast_pos.mpr Binary64.unitsPerOne_pos)
    | none =>
      cases b with
      | signed _ | unsigned _ => cases hj
      | float y =>
        have hlt := scaled_lt_of_lt (.inr rfl) h
        rw [toBinary64_of_toInt? hi] at hlt
        rw [count_of_toInt? hi]
        exact not_le.mp fun hle => absurd ((Binary64.scaled_ofInt_side hb i).1 hle) (not_le.mpr hlt)
  | none =>
    cases a with
    | signed _ | unsigned _ => cases hi
    | float x =>
      have hlt := scaled_lt_of_lt (.inl rfl) h
      cases hj : b.toInt? with
      | some j =>
        rw [toBinary64_of_toInt? hj] at hlt
        rw [count_of_toInt? hj]
        exact not_le.mp fun hle => absurd ((Binary64.scaled_ofInt_side ha j).2 hle) (not_le.mpr hlt)
      | none =>
        cases b with
        | signed _ | unsigned _ => cases hj
        | float y => exact hlt

theorem value_lt_of_lt (h : a.compare? b = some .lt) : valueOfCount a.count < valueOfCount b.count := by
  obtain ⟨ha, hb⟩ := isNaN_of_compare? h
  exact valueOfCount_lt (exists_exactValue? ha).2.1 (exists_exactValue? hb).2.2 (count_lt_of_lt h)

/-- Two numbers have an order unless one of them is not a number. Two integers have the order of their
values; of other numbers the one that is less has the lesser value, and rounding of an integer to the nearest
double can at most make them equal. The order is reversed with the two numbers; nothing is less than itself,
and to be less is transitive. -/
theorem compare?_exact_order (a b : Number) :
    (a.compare? b = none ↔ a.isNaN = true ∨ b.isNaN = true) ∧
    (∀ i j, a.toInt? = some i → b.toInt? = some j → a.compare? b = some (compare i j)) ∧
    (a.isNaN = false → b.isNaN = false → ∃ p q, a.exactValue? = some p ∧ b.exactValue? = some q ∧
      (a.compare? b = some .lt → p < q) ∧ (a.compare? b = some .gt → q < p)) ∧
    (∀ i, a.toInt? = some i → a.toBinary64.RoundsTo (i < 0) i.natAbs) ∧
    b.compare? a = (a.compare? b).map Ordering.swap ∧
    a.compare? a ≠ some .lt ∧
    ∀ c, a.compare? b = some .lt → b.compare? c = some .lt → a.compare? c = some .lt := by
  refine ⟨compare?_eq_none_iff, fun i j => compare?_of_toInt?, fun ha hb => ?_, fun i hi => ?_,
    compare?_swap b a, fun h => ?_, fun c => lt_trans_of_compare?⟩
  · refine ⟨_, _, (exists_exactValue? ha).1, (exists_exactValue? hb).1, value_lt_of_lt, fun h => ?_⟩
    refine value_lt_of_lt ?_
    rw [compare?_swap, h]
    rfl
  · rw [toBinary64_of_toInt? hi]
    exact Binary64.roundsTo_ofInt i
  · have hself := compare?_self (isNaN_of_compare? h).1
    rw [hself] at h
    cases h

/-- Between two odd integers beyond 2^53 there is a double that keeps them apart; the double below them is
equal to the smaller one, which is rounded to it. -/
theorem compare?_exact_order_odd :
    let i : Int := 9007199254740993
    let a := signed 9007199254740993
    let x := float ⟨0x4340000000000001⟩
    let b := unsigned 9007199254740995
    a.compare? x = some .lt ∧ x.compare? b = some .lt ∧ a.compare? b = some .lt ∧
    x.compare? a = some .gt ∧ (∃ p q, a.exactValue? = some p ∧ x.exactValue? = some q ∧ p < q) ∧
    a.toBinary64.RoundsTo (i < 0) i.natAbs ∧ a.compare? (float ⟨0x4340000000000000⟩) = some .eq := by
  intro i a x b
  have hax : a.compare? x = some .lt := by decide +kernel
  have hxb : x.compare? b = some .lt := by decide +kernel
  obtain ⟨-, -, hexact, hrounded, hswap, -, htrans⟩ := compare?_exact_order a x
  obtain ⟨p, q, hp, hq, hlt, -⟩ := hexact rfl (by decide +kernel)
  refine ⟨hax, hxb, htrans b hax hxb, ?_, ⟨p, q, hp, hq, hlt hax⟩, hrounded i rfl, by decide +kernel⟩
  rw [hswap, hax]
  rfl

end Number

end Sift
