import Sift.Proofs.Number.Text

/-! # Numbers of one value

Two doubles of one value have the same order against every number, and the same text. An integer and the
double of its value do if the integer is below the limit up to which doubles tell integers apart; above it
they need not.
-/
namespace Sift.Number
open Binary64 (exactLimit unitsPerOne)

theorem compare?_right_of_scaled {x y : Binary64} (hx : x.isNaN = false) (hy : y.isNaN = false)
    (h : x.scaled = y.scaled) (r : Number) : r.compare? (.float x) = r.compare? (.float y) := by
  rw [compare?_float, compare?_float, Binary64.compare?, Binary64.compare?, hx, hy, h]

/-- An integer below the limit and the double of its value have the same order against every number. -/
theorem compare?_right_of_integer {n : Number} {i : Int} {x : Binary64} (hn : n.toInt? = some i)
    (hi : i.natAbs < exactLimit) (hx : x.isNaN = false) (hvalue : x.scaled = i * unitsPerOne) (r : Number) :
    r.compare? (.float x) = r.compare? n := by
  have hscaled : x.scaled = (Binary64.ofInt i).scaled := by rw [hvalue, Binary64.scaled_ofInt hi.le]
  have hdouble := compare?_right_of_scaled hx (Binary64.isNaN_ofInt i) hscaled r
  rw [hdouble]
  cases r with
  | float y =>
    cases n with
    | float z => cases hn
    | signed n | unsigned n =>
      obtain rfl := Option.some.inj hn
      rfl
  | signed k | unsigned k =>
    -- Against an integer the doubles of both are compared, which is exact below the limit.
    rw [compare?_float, compare?_of_toInt? rfl hn, toBinary64, Binary64.compare?, Binary64.isNaN_ofInt,
      Binary64.isNaN_ofInt]
    exact congrArg some (Binary64.compare_scaled_ofInt hi _)

/-- Two numbers that no comparison and no text tells apart. -/
structure Interchangeable (p q : Number) : Prop where
  compare? : ∀ r : Number, r.compare? p = r.compare? q
  toText : p.toText = q.toText

theorem Interchangeable.refl (p : Number) : p.Interchangeable p := ⟨fun _ => rfl, rfl⟩

theorem Interchangeable.symm {p q : Number} (h : p.Interchangeable q) : q.Interchangeable p :=
  ⟨fun r => (h.compare? r).symm, h.toText.symm⟩

/-- If one of the two is an integer and the other one a double, the integer is below the limit. -/
def ExactPair (p q : Number) : Prop :=
  (∀ i x, p.toInt? = some i → q = .float x → i.natAbs < exactLimit) ∧
  ∀ i x, q.toInt? = some i → p = .float x → i.natAbs < exactLimit

theorem scaled_eq_of_compare? {n : Number} {x : Binary64} (h : n.compare? (.float x) = some .eq) :
    n.toBinary64.scaled = x.scaled := by
  rw [compare?_float] at h
  obtain ⟨-, hcompare⟩ := Option.ite_none_left_eq_some.mp h
  exact compare_eq_iff_eq.mp (Option.some.inj hcompare)

theorem interchangeable_integer_float {n : Number} {i : Int} {x : Binary64} (hn : n.toInt? = some i)
    (hx : x.isFinite = true) (hi : i.natAbs < exactLimit) (h : n.compare? (.float x) = some .eq) :
    n.Interchangeable (.float x) := by
  have hvalue : x.scaled = i * unitsPerOne := by
    rw [← scaled_eq_of_compare? h, toBinary64_of_toInt? hn, Binary64.scaled_ofInt hi.le]
  refine ⟨fun r => ?_, ?_⟩
  · exact (compare?_right_of_integer hn hi (Binary64.isNaN_of_isFinite hx) hvalue r).symm
  · rw [toText_of_toInt? hn]
    exact congrArg String.ofList (floatText_of_integer hx hi hvalue).symm

theorem interchangeable_floats {x y : Binary64} (hx : x.isFinite = true) (hy : y.isFinite = true)
    (h : (float x).compare? (.float y) = some .eq) : (float x).Interchangeable (.float y) := by
  have hvalue : x.scaled = y.scaled := scaled_eq_of_compare? h
  by_cases hzero : x.scaled = 0
  · -- The two zeros have one text.
    have hlimit : (0 : Int).natAbs < exactLimit := by decide
    have htext : ∀ {z : Binary64}, z.isFinite = true → z.scaled = 0 → floatText z = integerText 0 := by
      intro z hz hscaled
      exact floatText_of_integer hz hlimit (by rw [hscaled, Int.zero_mul])
    refine ⟨fun r => ?_, ?_⟩
    · exact compare?_right_of_scaled (Binary64.isNaN_of_isFinite hx) (Binary64.isNaN_of_isFinite hy) hvalue r
    · rw [toText, toText, htext hx hzero, htext hy (hvalue ▸ hzero)]
  · obtain rfl := Binary64.eq_of_scaled_eq hvalue hzero
    exact .refl _

/-- Equal numbers of JSON are interchangeable, unless an integer beyond the limit stands against a double. -/
theorem interchangeable_of_equal {p q : Number} (hp : p.IsJson) (hq : q.IsJson) (hexact : p.ExactPair q)
    (h : p.compare? q = some .eq) : p.Interchangeable q := by
  cases hi : p.toInt? with
  | some i =>
    cases hj : q.toInt? with
    | some j =>
      -- Of JSON's numbers just one is this integer.
      rw [compare?_of_toInt? hi hj] at h
      obtain rfl := compare_eq_iff_eq.mp (Option.some.inj h)
      have hword := (ofInt?_eq_some_iff.mpr ⟨hi, hp⟩).symm.trans (ofInt?_eq_some_iff.mpr ⟨hj, hq⟩)
      exact Option.some.inj hword ▸ .refl p
    | none =>
      cases q with
      | signed _ | unsigned _ => cases hj
      | float y => exact interchangeable_integer_float hi hq (hexact.1 i y hi rfl) h
  | none =>
    cases p with
    | signed _ | unsigned _ => cases hi
    | float x =>
      cases hj : q.toInt? with
      | some j =>
        have hswap : q.compare? (.float x) = some .eq := by rw [compare?_swap, h]; rfl
        exact (interchangeable_integer_float hj hp (hexact.2 j x hj rfl) hswap).symm
      | none =>
        cases q with
        | signed _ | unsigned _ => cases hj
        | float y => exact interchangeable_floats hp hq h

end Sift.Number
