import Mathlib.Data.List.DropRight
import Sift.Proofs.Number.Reading

/-! # Shortest decimals read back

The shortest decimal of a magnitude reads back as that magnitude, and so does the plain text that is made
of its digits. The plain text of an integer of sixteen digits that is told apart from all others is the
integer's own.
-/
namespace Sift

open Binary64

namespace Decimal

/-! ## Digits and exponent -/

/-- What is found for an exponent has that exponent and reads back. -/
theorem neighbour?_eq_some {tie : Tie} {m : Nat} {e : Int} {d : Decimal} (h : neighbour? tie m e = some d) :
    d.exponent = e ∧ magnitudeOfDecimal d.digits d.exponent = m := by
  unfold neighbour? at h
  -- It does not matter which ratio the two neighbours are taken from: both are read back.
  generalize (if 0 ≤ e then (units m, unitsPerOne * Nat.pow 10 e.toNat)
    else (units m * Nat.pow 10 (-e).toNat, unitsPerOne)) = ratio at h
  obtain ⟨num, den⟩ := ratio
  dsimp only at h
  split at h
  · next hlow =>
    obtain rfl := Option.some.inj h
    refine ⟨rfl, ?_⟩
    dsimp only
    split
    · next hhigh => exact of_decide_eq_true (Bool.and_eq_true_iff.mp hhigh).1
    · exact hlow
  · obtain ⟨hhigh, hd⟩ := Option.ite_none_right_eq_some.mp h
    obtain rfl := Option.some.inj hd
    exact ⟨rfl, of_decide_eq_true hhigh⟩

theorem magnitudeOfDecimal_exact {m : Nat} (h : m ≤ infinityMagnitude) :
    magnitudeOfDecimal (exact m).digits (exact m).exponent = m := by
  have hten : ∃ k : Nat, (exact m).exponent = -(k : Int) ∧ ∃ five, (exact m).digits = units m * five ∧
      0 < five ∧ 10 ^ k = unitsPerOne * five :=
    ⟨1074, rfl, Nat.pow 5 1074, rfl, by decide +kernel, by decide +kernel⟩
  obtain ⟨k, hk, five, hfive, hpos, hten⟩ := hten
  have hup : (-(k : Int)).toNat = 0 := by omega
  have hdown : (- -(k : Int)).toNat = k := by omega
  rw [hk, hfive, magnitudeOfDecimal_eq, hup, hdown, Nat.pow_zero, Nat.mul_one, hten,
    magnitudeOfRatio_mul_mul _ _ hpos, magnitudeOfRatio_units, Nat.min_eq_left h]

theorem magnitudeOfDecimal_shortest (tie : Tie) {m : Nat} (h : m ≤ infinityMagnitude) :
    magnitudeOfDecimal (shortest tie m).digits (shortest tie m).exponent = m := by
  unfold shortest
  cases hd : (List.range' 1 17).findSome? (onGrid? tie m) with
  | none => exact magnitudeOfDecimal_exact h
  | some d =>
    obtain ⟨n, -, hn⟩ := List.exists_of_findSome?_eq_some hd
    exact (neighbour?_eq_some hn).2

theorem digits_shortest_pos (tie : Tie) {m : Nat} (h : m ≤ infinityMagnitude) (hm : m ≠ 0) :
    0 < (shortest tie m).digits := by
  have hreads := magnitudeOfDecimal_shortest tie h
  refine Nat.pos_of_ne_zero fun hno => hm ?_
  rw [← hreads, hno, magnitudeOfDecimal_zero]

/-- A decimal's digits are the significant ones and zeros. -/
theorem toDigits_eq (d : Decimal) :
    ∃ k, Nat.toDigits 10 d.digits = d.significant ++ List.replicate k '0' := by
  have hsplit := List.rdropWhile_append_rtakeWhile (p := (· == '0')) (l := Nat.toDigits 10 d.digits)
  refine ⟨((Nat.toDigits 10 d.digits).rtakeWhile (· == '0')).length, ?_⟩
  have hzeros : (Nat.toDigits 10 d.digits).rtakeWhile (· == '0') =
      List.replicate ((Nat.toDigits 10 d.digits).rtakeWhile (· == '0')).length '0' := by
    refine List.eq_replicate_of_mem fun c hc => ?_
    have hzero := List.mem_rtakeWhile_imp hc
    exact eq_of_beq hzero
  rw [← hzeros]
  exact hsplit.symm

theorem isDigit_significant (d : Decimal) : ∀ c ∈ d.significant, c.isDigit = true := by
  intro c hc
  obtain ⟨k, hk⟩ := d.toDigits_eq
  refine isDigit_toDigits d.digits c ?_
  rw [hk]
  exact List.mem_append_left _ hc

theorem significant_ne_nil {d : Decimal} (h : 0 < d.digits) : d.significant ≠ [] := by
  intro hnil
  obtain ⟨k, hk⟩ := d.toDigits_eq
  rw [hnil, List.nil_append] at hk
  refine head?_toDigits_ne_zero h ?_
  cases k with
  | zero => exact absurd hk Nat.toDigits_ne_nil
  | succ k => rw [hk, List.replicate_succ, List.head?_cons]

/-- The significant digits, with their own exponent, have the value of the decimal. -/
theorem magnitudeOfDecimal_significant (d : Decimal) :
    magnitudeOfDecimal (Numeral.ofDigits d.significant) (d.lead + 1 - d.significant.length) =
      magnitudeOfDecimal d.digits d.exponent := by
  obtain ⟨k, hk⟩ := d.toDigits_eq
  have hvalue : d.digits = Numeral.ofDigits d.significant * 10 ^ k := by
    rw [← Numeral.ofDigits_append_zeros, ← hk, Numeral.ofDigits_toDigits]
  have hlength : digitCount d.digits = d.significant.length + k := by
    rw [digitCount, hk, List.length_append, List.length_replicate]
  have hexponent : d.lead + 1 - d.significant.length = d.exponent + k := by
    rw [lead, hlength]
    omega
  rw [hexponent, hvalue, magnitudeOfDecimal_mul_pow]

/-! ## Plain text -/

theorem writePositional_eq (digits : List Char) (lead : Int) :
    writePositional false digits lead =
      (wholeAndFraction digits lead).1 ++ Numeral.pointText (wholeAndFraction digits lead).2 := by
  unfold writePositional
  split
  · next whole h => rw [h]; exact (List.append_nil whole).symm
  · next whole fraction hne h =>
    rw [h]
    cases fraction with
    | nil => exact absurd rfl hne
    | cons c cs => rfl

theorem whole_part_ne_nil {digits : List Char} (h : digits ≠ []) (lead : Int) :
    (wholeAndFraction digits lead).1 ≠ [] := by
  unfold wholeAndFraction
  split
  · exact List.cons_ne_nil _ _
  · simp [h]

theorem isDigit_wholeAndFraction {digits : List Char} (h : ∀ c ∈ digits, c.isDigit = true) (lead : Int) :
    (∀ c ∈ (wholeAndFraction digits lead).1, c.isDigit = true) ∧
    ∀ c ∈ (wholeAndFraction digits lead).2, c.isDigit = true := by
  have hzeros : ∀ {k : Nat} {c : Char}, c ∈ List.replicate k '0' → c.isDigit = true := by
    intro k c hc
    rw [List.eq_of_mem_replicate hc]
    rfl
  unfold wholeAndFraction
  split <;> dsimp only
  · refine ⟨fun c hc => ?_, fun c hc => ?_⟩
    · rw [List.mem_singleton.mp hc]
      rfl
    · exact (List.mem_append.mp hc).elim hzeros (h c)
  · refine ⟨fun c hc => ?_, fun c hc => h c (List.mem_of_mem_drop hc)⟩
    exact (List.mem_append.mp hc).elim (fun hc => h c (List.mem_of_mem_take hc)) hzeros

theorem magnitudeOfDecimal_wholeAndFraction (digits : List Char) (lead : Int) :
    magnitudeOfDecimal
        (Numeral.ofDigits ((wholeAndFraction digits lead).1 ++ (wholeAndFraction digits lead).2))
        (0 - ((wholeAndFraction digits lead).2.length : Int)) =
      magnitudeOfDecimal (Numeral.ofDigits digits) (lead + 1 - digits.length) := by
  unfold wholeAndFraction
  split <;> dsimp only
  · next hlead =>
    have hzeros : ['0'] ++ (List.replicate (-lead - 1).toNat '0' ++ digits) =
        List.replicate ((-lead - 1).toNat + 1) '0' ++ digits := by
      rw [List.replicate_succ]
      rfl
    rw [hzeros, Numeral.ofDigits_zeros_append, List.length_append, List.length_replicate]
    congr 1
    omega
  · next hlead =>
    by_cases hlong : digits.length ≤ lead.toNat + 1
    · -- The zeros behind the digits belong to the exponent.
      have hdrop : digits.drop (lead.toNat + 1) = [] := List.drop_eq_nil_of_le hlong
      have hexponent : lead + 1 - (digits.length : Int) = 0 + ((lead.toNat + 1 - digits.length : Nat) : Int) := by
        omega
      rw [hdrop, List.append_nil, List.take_of_length_le hlong, Numeral.ofDigits_append_zeros,
        magnitudeOfDecimal_mul_pow, hexponent]
      congr 1
    · have hnone : lead.toNat + 1 - digits.length = 0 := by omega
      rw [hnone, List.replicate_zero, List.append_nil, List.take_append_drop, List.length_drop]
      congr 1
      omega

/-! ## Integers -/

theorem leadingExponent_of_integer {m n : Nat} (hn : 0 < n) (h : units m = n * unitsPerOne) :
    leadingExponent m = (digitCount n : Int) - 1 := by
  rw [leadingExponent, h, Nat.pow_eq, Nat.mul_right_comm, Nat.mul_div_cancel _ unitsPerOne_pos,
    digitCount_mul_pow hn]
  omega

/-- On the grid of the integers an integer is found. -/
theorem neighbour?_zero (tie : Tie) {m n : Nat} (hunits : units m = n * unitsPerOne)
    (hreads : magnitudeOfDecimal n 0 = m) : ∃ d, neighbour? tie m 0 = some d := by
  have hratio : (if (0 : Int) ≤ 0 then (units m, unitsPerOne * Nat.pow 10 (0 : Int).toNat)
      else (units m * Nat.pow 10 (-(0 : Int)).toNat, unitsPerOne)) = (units m, unitsPerOne) := by
    have hone : Nat.pow 10 (0 : Int).toNat = 1 := rfl
    rw [if_pos (Int.le_refl 0), hone, Nat.mul_one]
  have hlow : units m / unitsPerOne = n := by rw [hunits, Nat.mul_div_cancel _ unitsPerOne_pos]
  unfold neighbour?
  rw [hratio]
  dsimp only
  rw [hlow, if_pos hreads]
  exact ⟨_, rfl⟩

/-- The shortest decimal of an integer that doubles tell apart is that integer, perhaps without some of the
zeros at its end. -/
theorem shortest_of_integer (tie : Tie) {m n : Nat} (hn : 0 < n) (hlimit : n < exactLimit)
    (hm : magnitudeOfRatio n 1 = m) :
    ∃ k : Nat, (shortest tie m).exponent = k ∧ (shortest tie m).digits * 10 ^ k = n := by
  have hunits : units m = n * unitsPerOne := hm ▸ units_magnitudeOfRatio hlimit.le
  have hlead := leadingExponent_of_integer hn hunits
  have hpos := digitCount_pos n
  have hcount : digitCount n ≤ 17 := by
    have hsmall : n < 10 ^ 17 := Nat.lt_trans hlimit (by decide)
    exact (Nat.length_toDigits_le_iff (by decide) (by decide)).mpr hsmall
  -- The grid of the integers is among those that are tried, and no finer one comes before it.
  have hsplit : List.range' 1 17 =
      List.range' 1 (digitCount n) ++ List.range' (1 + digitCount n) (17 - digitCount n) := by
    rw [List.range'_append_1]
    congr 1
    omega
  have hinteger : ∃ d, onGrid? tie m (digitCount n) = some d := by
    have hzero : leadingExponent m - (digitCount n : Int) + 1 = 0 := by omega
    have hreads : magnitudeOfDecimal n 0 = m := by
      have hone := magnitudeOfDecimal_ofNat n 0
      rw [Nat.pow_zero, Nat.mul_one] at hone
      exact hone.trans hm
    rw [onGrid?, hzero]
    exact neighbour?_zero tie hunits hreads
  have hfound : ∃ d, (List.range' 1 (digitCount n)).findSome? (onGrid? tie m) = some d := by
    refine Option.ne_none_iff_exists'.mp fun hnone => ?_
    obtain ⟨d, hd⟩ := hinteger
    have hmem : digitCount n ∈ List.range' 1 (digitCount n) := List.mem_range'_1.mpr (by omega)
    rw [List.findSome?_eq_none_iff.mp hnone _ hmem] at hd
    cases hd
  obtain ⟨d, hd⟩ := hfound
  have hshortest : shortest tie m = d := by
    rw [shortest, hsplit, List.findSome?_append, hd]
    rfl
  obtain ⟨j, hj, hgrid⟩ := List.exists_of_findSome?_eq_some hd
  obtain ⟨hexponent, hreads⟩ := neighbour?_eq_some hgrid
  have hj := List.mem_range'_1.mp hj
  obtain ⟨k, hk⟩ : ∃ k : Nat, d.exponent = k := ⟨d.exponent.toNat, by omega⟩
  rw [hk, magnitudeOfDecimal_ofNat, ← hm] at hreads
  rw [hshortest]
  exact ⟨k, hk, eq_of_magnitudeOfRatio_eq hlimit hreads⟩

/-- The plain text of a decimal that is an integer is the integer's numeral. -/
theorem writePositional_of_integer {d : Decimal} {k : Nat} (hd : 0 < d.digits) (hk : d.exponent = k) :
    writePositional false d.significant d.lead = Nat.toDigits 10 (d.digits * 10 ^ k) := by
  obtain ⟨j, hj⟩ := d.toDigits_eq
  have hlength : digitCount d.digits = d.significant.length + j := by
    rw [digitCount, hj, List.length_append, List.length_replicate]
  have hpos := digitCount_pos d.digits
  have hlead : d.lead.toNat + 1 = d.significant.length + (j + k) := by
    rw [lead, hlength, hk]
    omega
  have hparts : wholeAndFraction d.significant d.lead =
      (d.significant ++ List.replicate (j + k) '0', []) := by
    have hfront : ¬ d.lead < 0 := by
      rw [lead]
      omega
    rw [wholeAndFraction, if_neg hfront, hlead]
    dsimp only
    rw [List.take_of_length_le (by omega), List.drop_eq_nil_of_le (by omega), Nat.add_sub_cancel_left]
  rw [writePositional_eq, hparts, toDigits_mul_pow hd, hj,
    List.append_assoc d.significant (List.replicate j '0'), List.replicate_append_replicate]
  exact List.append_nil _

end Decimal

namespace Numeral.Written
open Decimal

/-- The plain text of digits as a written numeral. -/
def plain (negative : Bool) {digits : List Char} (hne : digits ≠ []) (h : ∀ c ∈ digits, c.isDigit = true)
    (lead : Int) : Written where
  negative := negative
  whole := (wholeAndFraction digits lead).1
  fraction := (wholeAndFraction digits lead).2
  power := []
  exponent := 0
  whole_ne_nil := whole_part_ne_nil hne lead
  isDigit_whole := (isDigit_wholeAndFraction h lead).1
  isDigit_fraction := (isDigit_wholeAndFraction h lead).2
  takePower?_power := takePower?_nil

theorem text_plain (negative : Bool) {digits : List Char} (hne : digits ≠ [])
    (h : ∀ c ∈ digits, c.isDigit = true) (lead : Int) :
    (plain negative hne h lead).text = signText negative ++ writePositional false digits lead := by
  rw [writePositional_eq, text]
  simp only [plain, List.append_nil]

theorem toBinary64_plain (negative : Bool) {digits : List Char} (hne : digits ≠ [])
    (h : ∀ c ∈ digits, c.isDigit = true) (lead : Int) :
    (plain negative hne h lead).numeral.toBinary64 =
      ofMagnitude negative (magnitudeOfDecimal (ofDigits digits) (lead + 1 - digits.length)) := by
  rw [← magnitudeOfDecimal_wholeAndFraction, ← ofDecimal_eq]
  rfl

end Numeral.Written
end Sift
