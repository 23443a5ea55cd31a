import Sift.Coercion

/-! # The order of numbers

Two numbers have an order unless one of them is not a number, and it is reversed with the two numbers. No
value of JSON reads as a not-a-number: neither its numbers nor its texts do, since rounding ends at
infinity.
-/
namespace Sift

/-- A reversed order is that of equals if the order is. -/
theorem swap_beq_eq (o : Option Ordering) : (o.map Ordering.swap == some .eq) = (o == some .eq) := by
  rcases o with _ | o
  · rfl
  · cases o <;> rfl

namespace Binary64

theorem magnitude_ofMagnitude (negative : Bool) {m : Nat} (h : m < Nat.pow 2 63) :
    (ofMagnitude negative m).magnitude = m := by
  have hp : Nat.pow 2 63 = 9223372036854775808 := rfl
  rw [hp] at h
  simp only [magnitude, ofMagnitude, hp, UInt64.toNat_ofNat']
  cases negative
  · simp
    omega
  · simp
    omega

theorem infinityMagnitude_lt : infinityMagnitude < Nat.pow 2 63 := by decide

theorem isNaN_ofMagnitude (negative : Bool) {m : Nat} (h : m ≤ infinityMagnitude) :
    (ofMagnitude negative m).isNaN = false := by
  have hlt : m < Nat.pow 2 63 := Nat.lt_of_le_of_lt h infinityMagnitude_lt
  simp only [isNaN, magnitude_ofMagnitude negative hlt, decide_eq_false_iff_not, Nat.not_lt]
  exact h

theorem magnitudeOfRatio_le (n d : Nat) : magnitudeOfRatio n d ≤ infinityMagnitude := Nat.min_le_right _ _

theorem magnitudeOfDecimal_le (m : Nat) (e : Int) : magnitudeOfDecimal m e ≤ infinityMagnitude := by
  unfold magnitudeOfDecimal
  split <;> exact magnitudeOfRatio_le _ _

theorem isNaN_ofDecimal (negative : Bool) (m : Nat) (e : Int) : (ofDecimal negative m e).isNaN = false := by
  refine isNaN_ofMagnitude negative ?_
  split
  · exact Nat.zero_le _
  · split
    · exact Nat.le_refl _
    · exact magnitudeOfDecimal_le m e

theorem isNaN_ofInt (i : Int) : (ofInt i).isNaN = false := isNaN_ofMagnitude _ (magnitudeOfRatio_le _ _)

theorem isNaN_of_isFinite {x : Binary64} (h : x.isFinite = true) : x.isNaN = false := by
  have hlt : x.magnitude < infinityMagnitude := of_decide_eq_true h
  simp only [isNaN, decide_eq_false_iff_not]
  omega

theorem compare?_eq_none_iff {x y : Binary64} :
    x.compare? y = none ↔ x.isNaN = true ∨ y.isNaN = true := by
  unfold compare?
  rw [← Bool.or_eq_true]
  cases x.isNaN || y.isNaN <;> simp

theorem compare?_swap (x y : Binary64) : x.compare? y = (y.compare? x).map Ordering.swap := by
  unfold compare?
  rw [Bool.or_comm y.isNaN]
  cases x.isNaN || y.isNaN with
  | true => rfl
  | false => exact congrArg some (Int.compare_swap _ _).symm

end Binary64

namespace Number

def isNaN : Number → Bool
  | float x => x.isNaN
  | _ => false

theorem isNaN_toBinary64 (n : Number) : n.toBinary64.isNaN = n.isNaN := by
  cases n with
  | signed n => exact Binary64.isNaN_ofInt _
  | unsigned n => exact Binary64.isNaN_ofInt _
  | float x => rfl

theorem compare?_eq_none_iff {a b : Number} :
    a.compare? b = none ↔ a.isNaN = true ∨ b.isNaN = true := by
  have hfloats : a.toBinary64.compare? b.toBinary64 = none ↔ a.isNaN = true ∨ b.isNaN = true := by
    rw [Binary64.compare?_eq_none_iff, isNaN_toBinary64, isNaN_toBinary64]
  cases a with
  | float x => exact hfloats
  | signed _ | unsigned _ =>
    cases b with
    | float y => exact hfloats
    | signed _ | unsigned _ => simp [compare?, toInt?, isNaN]

theorem compare?_swap (a b : Number) : a.compare? b = (b.compare? a).map Ordering.swap := by
  have hfloats := Binary64.compare?_swap a.toBinary64 b.toBinary64
  cases a with
  | float x => cases b <;> exact hfloats
  | signed _ | unsigned _ =>
    cases b with
    | float y => exact hfloats
    | signed _ | unsigned _ => exact congrArg some (Int.compare_swap _ _).symm

theorem isNaN_of_ofInt? {i : Int} {n : Number} (h : ofInt? i = some n) : n.isNaN = false := by
  unfold ofInt? at h
  split at h
  · cases h
    rfl
  · split at h
    · cases h
      rfl
    · cases h

theorem isNaN_of_ofTrimmed? {cs : List Char} {n : Number} (h : ofTrimmed? cs = some n) :
    n.isNaN = false := by
  unfold ofTrimmed? at h
  split at h
  · next m hm =>
    obtain ⟨i, -, hi⟩ := Option.bind_eq_some_iff.mp hm
    cases h
    exact isNaN_of_ofInt? hi
  · split at h
    · obtain ⟨m, -, hm⟩ := Option.bind_eq_some_iff.mp h
      exact isNaN_of_ofInt? hm
    · obtain ⟨x, -, rfl⟩ := Option.map_eq_some_iff.mp h
      exact Binary64.isNaN_ofDecimal _ _ _

theorem isNaN_of_ofText? {s : String} {n : Number} (h : ofText? s = some n) : n.isNaN = false := by
  unfold ofText? at h
  split at h
  · cases h
    rfl
  · exact isNaN_of_ofTrimmed? h

end Number

/-- No value reads as a not-a-number; a double among the values of JSON is finite. -/
theorem Json.isNaN_of_toNumber? {v : Json} (hv : ∀ x, v = .number (.float x) → x.isFinite = true)
    {n : Number} (h : v.toNumber? = some n) : n.isNaN = false := by
  cases v with
  | null | bool b =>
    cases h
    rfl
  | number m =>
    obtain rfl : m = n := Option.some.inj h
    cases m with
    | signed _ | unsigned _ => rfl
    | float x => exact Binary64.isNaN_of_isFinite (hv x rfl)
  | string s => exact Number.isNaN_of_ofText? h
  | array xs | object ms => cases h

end Sift
