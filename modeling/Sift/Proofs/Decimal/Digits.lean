import Mathlib.Data.List.Basic
import Mathlib.Data.List.Induction
import Mathlib.Tactic.IntervalCases
import Sift.Decimal.Numeral

/-! # Rows of digits

The decimal digits of a number read back as the number, and a row of digits that does not begin with a zero
is the numeral of the number that it denotes. So numbers and such rows belong together one to one.
-/
namespace Sift

theorem digitValue?_digitChar {d : Nat} (h : d < 10) : digitValue? 10 d.digitChar = some d := by
  interval_cases d <;> rfl

theorem eq_digitChar_of_digitValue? {c : Char} {d : Nat} (h : digitValue? 10 c = some d) :
    d < 10 ∧ c = d.digitChar := by
  unfold digitValue? at h
  obtain ⟨hlt, hd⟩ := Option.ite_none_right_eq_some.mp h
  -- The letters have values from ten on, and all other characters have sixteen.
  have hdecimal : ('0' ≤ c && c ≤ '9') = true := by
    by_contra hno
    rw [if_neg hno] at hlt
    split_ifs at hlt <;> omega
  rw [if_pos hdecimal] at hlt hd
  obtain rfl := Option.some.inj hd
  have hlow : 48 ≤ c.toNat := by
    have hle := (Bool.and_eq_true_iff.mp hdecimal).1
    exact UInt32.le_iff_toNat_le.mp (of_decide_eq_true hle)
  refine ⟨hlt, Char.toNat_inj.mp ?_⟩
  rw [Nat.toNat_digitChar_of_lt_ten hlt]
  change c.toNat = 48 + (c.toNat - 48)
  omega

theorem natOfDigits?_singleton (radix : Nat) (c : Char) :
    natOfDigits? radix [c] = digitValue? radix c := by
  simp [natOfDigits?]

theorem natOfDigits?_append_singleton (radix : Nat) {ds : List Char} (h : ds ≠ []) (c : Char) :
    natOfDigits? radix (ds ++ [c]) =
      (natOfDigits? radix ds).bind fun n => (digitValue? radix c).map (n * radix + ·) := by
  obtain ⟨d, rest, rfl⟩ := List.exists_cons_of_ne_nil h
  rw [List.cons_append, natOfDigits?, natOfDigits?, ← List.cons_append, List.foldlM_append]
  · simp
  · simp
  · simp

theorem natOfDigits?_toDigits (n : Nat) : natOfDigits? 10 (Nat.toDigits 10 n) = some n := by
  induction n using Nat.strongRecOn with
  | ind n ih =>
    rw [Nat.toDigits_eq_if (by decide)]
    split
    · next hlt => rw [natOfDigits?_singleton, digitValue?_digitChar hlt]
    · next hge =>
      have hrest := ih (n / 10) (by omega)
      have hlast := digitValue?_digitChar (Nat.mod_lt n (by decide : 0 < 10))
      rw [natOfDigits?_append_singleton 10 Nat.toDigits_ne_nil, hrest, hlast]
      simp only [Option.bind_some, Option.map_some, Option.some.injEq]
      omega

theorem head?_toDigits_ne_zero {n : Nat} (h : 0 < n) : (Nat.toDigits 10 n).head? ≠ some '0' := by
  induction n using Nat.strongRecOn with
  | ind n ih =>
    rw [Nat.toDigits_eq_if (by decide)]
    split
    · intro hzero
      have hchar : n.digitChar = '0' := Option.some.inj hzero
      have hn := Nat.digitChar_eq_zero.mp hchar
      omega
    · rw [List.head?_append_of_ne_nil _ Nat.toDigits_ne_nil]
      exact ih (n / 10) (by omega) (by omega)

/-- A row of digits that does not begin with a zero is the numeral of its value, which is not zero. -/
theorem eq_toDigits_of_natOfDigits? {ds : List Char} {n : Nat} (h : natOfDigits? 10 ds = some n)
    (hlead : ds.head? ≠ some '0') : ds = Nat.toDigits 10 n ∧ 0 < n := by
  -- By the last digit: the digits before it have no zero in front either, or it is the only one.
  induction ds using List.reverseRecOn generalizing n with
  | nil => simp [natOfDigits?] at h
  | append_singleton ds c ih =>
    by_cases hds : ds = []
    · subst hds
      rw [List.nil_append, natOfDigits?_singleton] at h
      obtain ⟨hlt, rfl⟩ := eq_digitChar_of_digitValue? h
      refine ⟨(Nat.toDigits_of_lt_base hlt).symm, Nat.pos_of_ne_zero ?_⟩
      rintro rfl
      exact hlead rfl
    · rw [natOfDigits?_append_singleton 10 hds] at h
      obtain ⟨m, hm, hn⟩ := Option.bind_eq_some_iff.mp h
      obtain ⟨d, hd, rfl⟩ := Option.map_eq_some_iff.mp hn
      obtain ⟨hlt, rfl⟩ := eq_digitChar_of_digitValue? hd
      rw [List.head?_append_of_ne_nil _ hds] at hlead
      obtain ⟨rfl, hpos⟩ := ih hm hlead
      refine ⟨?_, by omega⟩
      rw [Nat.mul_comm m 10, ← Nat.toDigits_append_toDigits (by decide) hpos hlt,
        Nat.toDigits_of_lt_base hlt]

/-! ## Values of rows -/

namespace Numeral

theorem ofDigits_eq (cs : List Char) : ofDigits cs = Nat.ofDigitChars 10 cs 0 :=
  Nat.ofDigitChars_eq_foldl.symm

theorem ofDigits_append_zeros (cs : List Char) (k : Nat) :
    ofDigits (cs ++ List.replicate k '0') = ofDigits cs * 10 ^ k := by
  rw [ofDigits_eq, ofDigits_eq, Nat.ofDigitChars_append, Nat.ofDigitChars_replicate_zero, Nat.mul_comm]

theorem ofDigits_zeros_append (k : Nat) (cs : List Char) :
    ofDigits (List.replicate k '0' ++ cs) = ofDigits cs := by
  rw [ofDigits_eq, ofDigits_eq, Nat.ofDigitChars_append, Nat.ofDigitChars_replicate_zero, Nat.mul_zero]

theorem ofDigits_toDigits (n : Nat) : ofDigits (Nat.toDigits 10 n) = n := by
  rw [ofDigits_eq, Nat.ofDigitChars_ten_toDigits]

end Numeral

theorem digitValue?_of_isDigit {c : Char} (h : c.isDigit = true) :
    digitValue? 10 c = some (c.toNat - '0'.toNat) := by
  have hbounds : ('0' ≤ c && c ≤ '9') = true := h
  have hhigh : c.toNat ≤ 57 := by
    have hle := (Bool.and_eq_true_iff.mp hbounds).2
    exact UInt32.le_iff_toNat_le.mp (of_decide_eq_true hle)
  have hlt : c.toNat - '0'.toNat < 10 := by
    change c.toNat - 48 < 10
    omega
  simp only [digitValue?, hbounds, ↓reduceIte, hlt]

theorem isDigit_of_digitValue? {c : Char} {d : Nat} (h : digitValue? 10 c = some d) : c.isDigit = true := by
  obtain ⟨hlt, rfl⟩ := eq_digitChar_of_digitValue? h
  rw [Nat.isDigit_digitChar, decide_eq_true hlt]

theorem isDigit_toDigits (n : Nat) : ∀ c ∈ Nat.toDigits 10 n, c.isDigit = true :=
  fun _ hc => Nat.isDigit_of_mem_toDigits (by decide) (by decide) hc

theorem natOfDigits?_of_isDigit {cs : List Char} (hne : cs ≠ []) (h : ∀ c ∈ cs, c.isDigit = true) :
    natOfDigits? 10 cs = some (Numeral.ofDigits cs) := by
  have hfold : ∀ (cs : List Char) (n : Nat), (∀ c ∈ cs, c.isDigit = true) →
      cs.foldlM (fun n c => (digitValue? 10 c).map (n * 10 + ·)) n = some (Nat.ofDigitChars 10 cs n) := by
    intro cs
    induction cs with
    | nil => exact fun _ _ => rfl
    | cons c cs ih =>
      intro n h
      rw [List.foldlM_cons, digitValue?_of_isDigit (h c List.mem_cons_self), Nat.ofDigitChars_cons,
        Nat.mul_comm 10]
      exact ih _ fun d hd => h d (List.mem_cons_of_mem c hd)
  obtain ⟨c, rest, rfl⟩ := List.exists_cons_of_ne_nil hne
  rw [Numeral.ofDigits_eq]
  exact hfold _ 0 h

/-- A row with a character that is no digit denotes nothing. -/
theorem natOfDigits?_eq_none {cs : List Char} {c : Char} (hc : c ∈ cs) (h : c.isDigit = false) :
    natOfDigits? 10 cs = none := by
  have hfold : ∀ (cs : List Char) (n : Nat), c ∈ cs →
      cs.foldlM (fun n c => (digitValue? 10 c).map (n * 10 + ·)) n = none := by
    intro cs
    induction cs with
    | nil => exact fun _ hc => absurd hc List.not_mem_nil
    | cons d cs ih =>
      intro n hc
      rw [List.foldlM_cons]
      cases hd : digitValue? 10 d with
      | none => rfl
      | some v =>
        rcases List.mem_cons.mp hc with rfl | hc
        · rw [isDigit_of_digitValue? hd] at h
          cases h
        · exact ih _ hc
  obtain ⟨d, rest, rfl⟩ := List.exists_cons_of_ne_nil (List.ne_nil_of_mem hc)
  exact hfold _ 0 hc

/-- To append zeros to a numeral is to multiply by a power of ten. -/
theorem toDigits_mul_pow {n : Nat} (h : 0 < n) (k : Nat) :
    Nat.toDigits 10 (n * 10 ^ k) = Nat.toDigits 10 n ++ List.replicate k '0' := by
  have hne : Nat.toDigits 10 n ++ List.replicate k '0' ≠ [] := by simp [Nat.toDigits_ne_nil]
  have hdigits : ∀ c ∈ Nat.toDigits 10 n ++ List.replicate k '0', c.isDigit = true := by
    intro c hc
    rcases List.mem_append.mp hc with hc | hc
    · exact isDigit_toDigits n c hc
    · rw [List.eq_of_mem_replicate hc]
      rfl
  have hvalue := natOfDigits?_of_isDigit hne hdigits
  rw [Numeral.ofDigits_append_zeros, Numeral.ofDigits_toDigits] at hvalue
  have hlead : (Nat.toDigits 10 n ++ List.replicate k '0').head? ≠ some '0' := by
    rw [List.head?_append_of_ne_nil _ Nat.toDigits_ne_nil]
    exact head?_toDigits_ne_zero h
  exact (eq_toDigits_of_natOfDigits? hvalue hlead).1.symm

namespace Binary64

theorem lt_pow_digitCount (n : Nat) : n < 10 ^ digitCount n :=
  (Nat.length_toDigits_le_iff (by decide) Nat.length_toDigits_pos).mp (Nat.le_refl (digitCount n))

theorem pow_le_of_lt_digitCount {n k : Nat} (hn : 0 < n) (h : k < digitCount n) : 10 ^ k ≤ n := by
  rcases Nat.eq_zero_or_pos k with rfl | hk
  · exact hn
  · have hle : ¬ digitCount n ≤ k := by omega
    rw [digitCount, Nat.length_toDigits_le_iff (by decide) hk] at hle
    omega

theorem digitCount_pos (n : Nat) : 0 < digitCount n := Nat.length_toDigits_pos

theorem digitCount_mul_pow {n : Nat} (h : 0 < n) (k : Nat) : digitCount (n * 10 ^ k) = digitCount n + k := by
  rw [digitCount, toDigits_mul_pow h, List.length_append, List.length_replicate, digitCount]

end Binary64

end Sift
