import Sift.Proofs.Decimal.Written

/-! # Reading written numerals

A written numeral is read as the word that holds it, if it is an integer and there is one, and as the
nearest double otherwise. Either way it is, as a double, the nearest double; only a zero may lose its sign.
-/
namespace Sift

namespace Number

theorem ofInt?_eq (i : Int) :
    ofInt? i = if -2 ^ 63 ≤ i ∧ i < 2 ^ 63 then some (signed (Int64.ofInt i))
      else if 0 ≤ i ∧ i < 2 ^ 64 then some (unsigned (UInt64.ofNat i.toNat)) else none := by
  change (if (decide (-2 ^ 63 ≤ i) && decide (i < 2 ^ 63)) = true then some (signed (Int64.ofInt i))
    else if (decide (0 ≤ i) && decide (i < 2 ^ 64)) = true then some (unsigned (UInt64.ofNat i.toNat))
    else none) = _
  simp only [Bool.and_eq_true, decide_eq_true_eq]

/-- The numbers of JSON are in one form only, which is the one that integers are given. -/
theorem ofInt?_eq_some_iff {i : Int} {n : Number} : ofInt? i = some n ↔ n.toInt? = some i ∧ n.IsJson := by
  rw [ofInt?_eq]
  constructor
  · intro h
    split at h
    · next hi =>
      cases h
      exact ⟨congrArg some (Int64.toInt_ofInt_of_le hi.1 hi.2), trivial⟩
    · split at h
      · next hi hu =>
        cases h
        have hn : (UInt64.ofNat i.toNat).toNat = i.toNat := by
          rw [UInt64.toNat_ofNat']
          omega
        refine ⟨congrArg some (by rw [hn]; omega), ?_⟩
        change 2 ^ 63 ≤ (UInt64.ofNat i.toNat).toNat
        omega
      · cases h
  · rintro ⟨hi, hjson⟩
    cases n with
    | signed n =>
      obtain rfl := Option.some.inj hi
      rw [if_pos ⟨n.le_toInt, n.toInt_lt⟩, Int64.ofInt_toInt]
    | unsigned n =>
      obtain rfl := Option.some.inj hi
      have hlow : 2 ^ 63 ≤ n.toNat := hjson
      have hhigh := n.toNat_lt
      rw [if_neg (by omega), if_pos (by omega), Int.toNat_natCast, UInt64.ofNat_toNat]
    | float x => cases hi

theorem toBinary64_of_toInt? {n : Number} {i : Int} (h : n.toInt? = some i) : n.toBinary64 = Binary64.ofInt i := by
  cases n with
  | signed n | unsigned n => rw [← Option.some.inj h, toBinary64]
  | float x => cases h

theorem compare?_of_toInt? {m n : Number} {i j : Int} (hm : m.toInt? = some i) (hn : n.toInt? = some j) :
    m.compare? n = some (compare i j) := by
  simp only [compare?, hm, hn]

theorem compare?_float (n : Number) (x : Binary64) : n.compare? (float x) = n.toBinary64.compare? x := by
  cases n <;> rfl

/-- A number and a double of one value are equal. -/
theorem compare?_float_eq {n : Number} {x : Binary64} (hn : n.isNaN = false) (hx : x.isNaN = false)
    (h : n.toBinary64.scaled = x.scaled) : n.compare? (float x) = some .eq := by
  rw [compare?_float, Binary64.compare?, isNaN_toBinary64, hn, hx, h]
  exact congrArg some (compare_eq_iff_eq.mpr rfl)

theorem compare?_self {n : Number} (h : n.isNaN = false) : n.compare? n = some .eq := by
  cases n with
  | signed n | unsigned n => exact congrArg some (compare_eq_iff_eq.mpr rfl)
  | float x => exact compare?_float_eq h h rfl

end Number

namespace Binary64

/-- Without an exponent, a decimal is the double of an integer, but for the sign of zero. -/
theorem scaled_ofDecimal_zero (negative : Bool) (m : Nat) :
    (ofDecimal negative m 0).scaled = (ofInt (if negative then -(m : Int) else m)).scaled := by
  have hmagnitude : magnitudeOfDecimal m 0 = magnitudeOfRatio m 1 := by
    have h := magnitudeOfDecimal_ofNat m 0
    rwa [Nat.pow_zero, Nat.mul_one] at h
  rw [ofDecimal_eq, scaled_ofMagnitude _ (magnitudeOfDecimal_le m 0), hmagnitude, scaled_ofInt_eq]
  cases negative with
  | false => simp
  | true =>
    rcases Nat.eq_zero_or_pos m with rfl | hm
    · have hzero : units 0 = 0 := units_of_lt (by decide)
      simp [magnitudeOfRatio_zero Nat.one_pos, hzero]
    · simp [Nat.ne_of_gt hm]

end Binary64

namespace Numeral.Written
variable (w : Written)

/-- The number that a written numeral is read as. -/
def number : Number :=
  (if w.IsInteger then Number.ofInt? w.integer else none).getD (.float w.numeral.toBinary64)

theorem ofTrimmed?_text : Number.ofTrimmed? w.text = some w.number := by
  have hinteger : (integerOfText? w.text).bind Number.ofInt? =
      if w.IsInteger then Number.ofInt? w.integer else none := by
    rw [w.integerOfText?_text]
    split <;> rfl
  simp only [Number.ofTrimmed?, hinteger, w.radixLiteral?_text, w.parse?_text, number]
  cases if w.IsInteger then Number.ofInt? w.integer else none <;> rfl

theorem trimChars_text : Text.trimChars w.text = w.text := by
  refine Text.trimChars_eq_self_iff.mpr ⟨fun c hc => ?_, fun c hc => ?_⟩
  · exact w.isBlank_of_mem_text c (List.mem_of_mem_head? hc)
  · exact w.isBlank_of_mem_text c (List.mem_of_mem_getLast? hc)

/-- A text that is a written numeral but for blanks around it. -/
theorem ofText?_of_trimChars_eq {s : String} (h : Text.trimChars s.toList = w.text) :
    Number.ofText? s = some w.number := by
  obtain ⟨c, cs, hc⟩ := List.exists_cons_of_ne_nil w.text_ne_nil
  have hread := w.ofTrimmed?_text
  rw [hc] at h hread
  simp only [Number.ofText?, h]
  exact hread

theorem ofText?_text : Number.ofText? (String.ofList w.text) = some w.number :=
  w.ofText?_of_trimChars_eq (by rw [String.toList_ofList, w.trimChars_text])

theorem isNaN_number : w.number.isNaN = false := Number.isNaN_of_ofTrimmed? w.ofTrimmed?_text

theorem scaled_number : w.number.toBinary64.scaled = w.numeral.toBinary64.scaled := by
  unfold number
  split
  · next h =>
    cases hi : Number.ofInt? w.integer with
    | none => rfl
    | some n =>
      have hexponent : w.exponent = 0 := by
        have hpower := w.takePower?_power
        rw [h.2] at hpower
        exact (Prod.mk.inj (Option.some.inj hpower)).1.symm
      have hnumeral : w.numeral = ⟨w.negative, ofDigits w.whole, 0⟩ := by
        simp [numeral, ofParts, h.1, hexponent]
      rw [Option.getD_some, Number.toBinary64_of_toInt? (Number.ofInt?_eq_some_iff.mp hi).1, hnumeral,
        toBinary64, Binary64.scaled_ofDecimal_zero, integer]
  · rfl

end Numeral.Written
end Sift
