import Sift.Proofs.Builtin.Ordering
import Sift.Proofs.Decimal.Shortest

/-! # The text of a number

The text of a finite number is a written numeral, and it reads as a number of the same value. An integer of
JSON is even read as itself. A double may come back as an integer, but then it is that integer's double.
-/
namespace Sift

namespace Numeral.Written

/-- The text of an integer as a written numeral. -/
def ofInt (i : Int) : Written where
  negative := i < 0
  whole := Nat.toDigits 10 i.natAbs
  fraction := []
  power := []
  exponent := 0
  whole_ne_nil := Nat.toDigits_ne_nil
  isDigit_whole := isDigit_toDigits i.natAbs
  isDigit_fraction := List.forall_mem_nil _
  takePower?_power := takePower?_nil

theorem text_ofInt (i : Int) : (ofInt i).text = integerText i := by
  simp only [text, ofInt, signText, pointText, integerText, List.append_nil, decide_eq_true_eq]

theorem integer_ofInt (i : Int) : (ofInt i).integer = i := by
  simp only [integer, ofInt, ofDigits_toDigits, decide_eq_true_eq]
  split <;> omega

theorem number_ofInt {i : Int} {n : Number} (h : Number.ofInt? i = some n) : (ofInt i).number = n := by
  have hinteger : (ofInt i).IsInteger := ⟨rfl, rfl⟩
  rw [number, if_pos hinteger, integer_ofInt, h, Option.getD_some]

end Numeral.Written

namespace Binary64

theorem scaled_of_isWhole {x : Binary64} (h : x.isWhole = true) : x.scaled = x.whole * unitsPerOne := by
  have hrest : x.scaled % unitsPerOne = 0 := eq_of_beq (Bool.and_eq_true_iff.mp h).2
  exact (Int.tdiv_mul_cancel (Int.dvd_of_emod_eq_zero hrest)).symm

end Binary64

namespace Number
open Numeral

theorem wholeTextLimit_lt : wholeTextLimit < Binary64.exactLimit := by decide +kernel

/-- A word holds every integer that a number is, and those that doubles tell apart. -/
theorem exists_ofInt? {i : Int} (h : i.natAbs < 2 ^ 63 ∨ ∃ n : Number, n.toInt? = some i) :
    ∃ n, ofInt? i = some n := by
  have hbounds : -2 ^ 63 ≤ i ∧ i < 2 ^ 64 := by
    rcases h with h | ⟨n, hn⟩
    · omega
    · cases n with
      | signed n =>
        obtain rfl := Option.some.inj hn
        have hlow := n.le_toInt
        have hhigh := n.toInt_lt
        omega
      | unsigned n =>
        obtain rfl := Option.some.inj hn
        have hhigh := n.toNat_lt
        omega
      | float x => cases hn
  rw [ofInt?_eq]
  split
  · exact ⟨_, rfl⟩
  · rw [if_pos (by omega)]
    exact ⟨_, rfl⟩

theorem toText_of_toInt? {n : Number} {i : Int} (h : n.toInt? = some i) :
    n.toText = String.ofList (integerText i) := by
  cases n with
  | signed n | unsigned n => rw [← Option.some.inj h, toText]
  | float x => cases h

theorem floatText_of_isFinite {x : Binary64} (h : x.isFinite = true) :
    floatText x = if x.isWhole && x.whole.natAbs < wholeTextLimit then integerText x.whole
      else plainLayout.write x := by
  have hinfinite : x.isInfinite = false := by
    have hlt : x.magnitude < Binary64.infinityMagnitude := of_decide_eq_true h
    exact beq_eq_false_iff_ne.mpr (Nat.ne_of_lt hlt)
  simp only [floatText, Binary64.isNaN_of_isFinite h, hinfinite, Bool.false_eq_true, if_false]

/-- The plain text of an integer's double is the integer's own text, as long as doubles tell integers
apart. -/
theorem write_ofInt {i : Int} (hne : i ≠ 0) (hi : i.natAbs < Binary64.exactLimit) :
    plainLayout.write (Binary64.ofInt i) = integerText i := by
  have hpos : 0 < i.natAbs := Int.natAbs_pos.mpr hne
  obtain ⟨m, hm⟩ : ∃ m, Binary64.magnitudeOfRatio i.natAbs 1 = m := ⟨_, rfl⟩
  have hlt : m < Nat.pow 2 63 := by
    rw [← hm]
    exact Nat.lt_of_le_of_lt (Binary64.magnitudeOfRatio_le _ _) Binary64.infinityMagnitude_lt
  have hmagnitude : (Binary64.ofInt i).magnitude = m := by
    rw [Binary64.ofInt, hm, Binary64.magnitude_ofMagnitude _ hlt]
  have hnegative : (Binary64.ofInt i).isNegative = decide (i < 0) := Binary64.isNegative_ofMagnitude _ _
  have hzero : m ≠ 0 := by
    have hunits := Binary64.units_magnitudeOfRatio hi.le
    rw [hm] at hunits
    exact Nat.ne_of_gt (Binary64.units_pos_iff.mp (hunits ▸ Nat.mul_pos hpos Binary64.unitsPerOne_pos))
  obtain ⟨k, hk, hvalue⟩ := Decimal.shortest_of_integer plainLayout.tie hpos hi hm
  obtain ⟨d, hd⟩ : ∃ d, Decimal.shortest plainLayout.tie m = d := ⟨_, rfl⟩
  rw [hd] at hk hvalue
  have hdigits : 0 < d.digits := by
    refine Nat.pos_of_ne_zero fun hno => ?_
    rw [hno, Nat.zero_mul] at hvalue
    omega
  have hpositional : plainLayout.positional d.lead = true := rfl
  have hkeeps : plainLayout.keepsPoint = false := rfl
  rw [Decimal.Layout.write, hmagnitude, hnegative, if_neg hzero, hd]
  simp only [hpositional, if_true, hkeeps]
  rw [Decimal.writePositional_of_integer hdigits hk, hvalue, integerText]
  simp only [decide_eq_true_eq]

/-- A double that is an integer has its text, as long as doubles tell integers apart. -/
theorem floatText_of_integer {x : Binary64} {i : Int} (hx : x.isFinite = true)
    (hi : i.natAbs < Binary64.exactLimit) (hvalue : x.scaled = i * Binary64.unitsPerOne) :
    floatText x = integerText i := by
  have hne : (Binary64.unitsPerOne : Int) ≠ 0 := Int.natCast_ne_zero.mpr (Nat.ne_of_gt Binary64.unitsPerOne_pos)
  have hwhole : x.whole = i := by rw [Binary64.whole, hvalue, Int.mul_tdiv_cancel _ hne]
  have hisWhole : x.isWhole = true := by
    rw [Binary64.isWhole, hx, hvalue, Int.mul_emod_left]
    rfl
  rw [floatText_of_isFinite hx, hisWhole, hwhole, Bool.true_and]
  split
  · rfl
  · next hlarge =>
    have hi0 : i ≠ 0 := by
      rintro rfl
      exact hlarge (by decide)
    have hdouble : x = Binary64.ofInt i := by
      refine Binary64.eq_of_scaled_eq (by rw [hvalue, Binary64.scaled_ofInt hi.le]) ?_
      rw [hvalue]
      exact Int.mul_ne_zero hi0 hne
    rw [hdouble, write_ofInt hi0 hi]

/-- The plain text of a finite double that is not zero is a numeral with that double as its nearest. -/
theorem exists_written_plain {x : Binary64} (h : x.isFinite = true) (hzero : x.magnitude ≠ 0) :
    ∃ w : Written, plainLayout.write x = w.text ∧ w.numeral.toBinary64.scaled = x.scaled := by
  have hle : x.magnitude ≤ Binary64.infinityMagnitude := Nat.le_of_lt (of_decide_eq_true h)
  have hreads := Decimal.magnitudeOfDecimal_shortest plainLayout.tie hle
  have hdigits := Decimal.digits_shortest_pos plainLayout.tie hle hzero
  obtain ⟨d, hd⟩ : ∃ d, Decimal.shortest plainLayout.tie x.magnitude = d := ⟨_, rfl⟩
  rw [hd] at hreads hdigits
  refine ⟨.plain x.isNegative (Decimal.significant_ne_nil hdigits) d.isDigit_significant d.lead, ?_, ?_⟩
  · have hpositional : plainLayout.positional d.lead = true := rfl
    rw [Written.text_plain, Decimal.Layout.write, if_neg hzero, hd]
    simp only [hpositional, if_true]
    rfl
  · rw [Written.toBinary64_plain, Decimal.magnitudeOfDecimal_significant, hreads,
      Binary64.scaled_ofMagnitude _ hle, Binary64.scaled]

/-- The text of a finite double is a numeral that is read as a number of the same value. -/
theorem exists_written_float {x : Binary64} (h : x.isFinite = true) :
    ∃ w : Written, floatText x = w.text ∧ w.number.toBinary64.scaled = x.scaled := by
  rw [floatText_of_isFinite h]
  split
  · next hwhole =>
    obtain ⟨hwhole, hlimit⟩ := Bool.and_eq_true_iff.mp hwhole
    have hexact := Nat.lt_trans (of_decide_eq_true hlimit) wholeTextLimit_lt
    have hword : x.whole.natAbs < 2 ^ 63 := Nat.lt_trans hexact (by decide)
    obtain ⟨n, hn⟩ := exists_ofInt? (.inl hword)
    refine ⟨.ofInt x.whole, (Written.text_ofInt _).symm, ?_⟩
    rw [Written.number_ofInt hn, toBinary64_of_toInt? (ofInt?_eq_some_iff.mp hn).1,
      Binary64.scaled_ofInt hexact.le, Binary64.scaled_of_isWhole hwhole]
  · next hwhole =>
    -- Both zeros are whole and below the limit.
    have hzero : x.magnitude ≠ 0 := by
      intro hzero
      have hscaled : x.scaled = 0 := by
        rw [Binary64.scaled, hzero]
        split <;> rfl
      refine hwhole ?_
      have hvalue : x.whole = 0 := by rw [Binary64.whole, hscaled, Int.zero_tdiv]
      rw [Binary64.isWhole, h, hscaled, hvalue, Int.zero_emod]
      decide
    obtain ⟨w, hw, hvalue⟩ := exists_written_plain h hzero
    exact ⟨w, hw, w.scaled_number.trans hvalue⟩

/-- The text of a number is a numeral that is read as an equal number. -/
theorem exists_written {n : Number} (hn : ∀ x, n = .float x → x.isFinite = true) :
    ∃ w : Written, n.toText = String.ofList w.text ∧ w.number.compare? n = some .eq ∧
      (n.IsJson → ∀ i, n.toInt? = some i → w.number = n) := by
  have hinteger : ∀ i, n.toInt? = some i →
      ∃ w : Written, n.toText = String.ofList w.text ∧ w.number.compare? n = some .eq ∧
        (n.IsJson → ∀ i, n.toInt? = some i → w.number = n) := by
    intro i hi
    obtain ⟨m, hm⟩ := exists_ofInt? (.inr ⟨n, hi⟩)
    have hread := Written.number_ofInt hm
    refine ⟨.ofInt i, ?_, ?_, fun hjson _ _ => ?_⟩
    · rw [toText_of_toInt? hi, Written.text_ofInt]
    · rw [hread, compare?_of_toInt? (ofInt?_eq_some_iff.mp hm).1 hi]
      exact congrArg some (compare_eq_iff_eq.mpr rfl)
    · have hself := ofInt?_eq_some_iff.mpr ⟨hi, hjson⟩
      rw [hread]
      exact Option.some.inj (hm.symm.trans hself)
  cases n with
  | signed n => exact hinteger _ rfl
  | unsigned n => exact hinteger _ rfl
  | float x =>
    obtain ⟨w, hw, hvalue⟩ := exists_written_float (hn x rfl)
    refine ⟨w, congrArg String.ofList hw, ?_, fun _ _ hi => by cases hi⟩
    exact compare?_float_eq w.isNaN_number (Binary64.isNaN_of_isFinite (hn x rfl)) hvalue

end Number

namespace Json

/-- A number and a text are equal if the text reads as an equal number. -/
theorem looseEq_number_string {n m : Number} {text : String} (hread : (string text).toNumber? = some m)
    (h : m.compare? n = some .eq) :
    looseEq (some (.number n)) (.string text) = true ∧ looseEq (some (.string text)) (.number n) = true := by
  have hswap : n.compare? m = some .eq := by rw [Number.compare?_swap, h]; rfl
  have hforth : order? (some (.number n)) (.string text) = some .eq :=
    (order?_of_not_strings (by simp)).trans (numericOrder?_eq_some_iff.mpr ⟨n, m, rfl, hread, hswap⟩)
  have hback : order? (some (.string text)) (.number n) = some .eq :=
    (order?_of_not_strings (by simp)).trans (numericOrder?_eq_some_iff.mpr ⟨m, n, hread, rfl, h⟩)
  exact ⟨beq_iff_eq.mpr hforth, beq_iff_eq.mpr hback⟩

/-- The text of a number reads as an equal number, and as the number itself if that is an integer of JSON.
So a number equals its text, on whichever side the text is. -/
theorem text_reads_back {n : Number} (hn : ∀ x, n = .float x → x.isFinite = true) :
    ∃ text m, (Json.number n).toText? = some text ∧ (Json.string text).toNumber? = some m ∧
      m.compare? n = some .eq ∧ (n.IsJson → ∀ i, n.toInt? = some i → m = n) ∧
      looseEq (some (.number n)) (.string text) = true ∧
      looseEq (some (.string text)) (.number n) = true := by
  obtain ⟨w, htext, hequal, hsame⟩ := Number.exists_written hn
  have hread : (Json.string n.toText).toNumber? = some w.number := by
    rw [htext]
    exact w.ofText?_text
  obtain ⟨hforth, hback⟩ := looseEq_number_string hread hequal
  exact ⟨n.toText, w.number, rfl, hread, hequal, hsame, hforth, hback⟩

/-- A double above the limit comes back as an integer, which is not its value but is nearest to it. -/
theorem text_reads_back_rounded :
    let n : Number := .float ⟨0x43B0000000000000⟩
    (∀ x, n = .float x → x.isFinite = true) ∧
    (Json.number n).toText? = some "1152921504606847000" ∧
    (Json.string "1152921504606847000").toNumber? = some (.signed 1152921504606847000) ∧
    looseEq (some (.number n)) (.string "1152921504606847000") = true := by
  intro n
  have hn : ∀ x, n = .float x → x.isFinite = true := by
    intro x hx
    obtain rfl := Number.float.inj hx
    decide
  have htext : (Json.number n).toText? = some "1152921504606847000" := by decide +kernel
  have hread : (Json.string "1152921504606847000").toNumber? = some (.signed 1152921504606847000) := by
    decide +kernel
  obtain ⟨text, m, htext', -, -, -, hforth, -⟩ := text_reads_back hn
  obtain rfl : text = "1152921504606847000" := Option.some.inj (htext'.symm.trans htext)
  exact ⟨hn, htext, hread, hforth⟩

end Json
end Sift
