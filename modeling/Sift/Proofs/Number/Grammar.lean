import Sift.Proofs.Decimal.Forms
import Sift.Proofs.Number.Reading

/-! # The grammar of numeric texts

A text has a numeric reading if it is blank, an integer, a literal with a radix mark that a word holds, or a
decimal; no other text has one. An integer reads as the word that holds it. A decimal, and an integer that
no word holds, reads as the nearest double.
-/
namespace Sift
open Numeral Binary64

namespace Number

/-- An integer in the word that holds it, the signed one before the unsigned one, or else as this double. -/
def ofInteger (negative : Bool) (n : Nat) (x : Binary64) : Number :=
  if -2 ^ 63 ≤ withSign negative n ∧ withSign negative n < 2 ^ 63 then
    .signed (Int64.ofInt (withSign negative n))
  else if negative = false ∧ n < 2 ^ 64 then .unsigned (UInt64.ofNat n)
  else .float x

theorem getD_ofInt?_withSign (negative : Bool) (n : Nat) (x : Binary64) :
    (ofInt? (withSign negative n)).getD (.float x) = ofInteger negative n x := by
  rw [ofInt?_eq, ofInteger]
  by_cases hsigned : -2 ^ 63 ≤ withSign negative n ∧ withSign negative n < 2 ^ 63
  · rw [if_pos hsigned, if_pos hsigned, Option.getD_some]
  · rw [if_neg hsigned, if_neg hsigned]
    cases negative with
    | false =>
      have hvalue : withSign false n = n := rfl
      by_cases hlt : n < 2 ^ 64
      · rw [hvalue, if_pos (by omega), if_pos ⟨rfl, hlt⟩, Option.getD_some, Int.toNat_natCast]
      · rw [hvalue, if_neg (by omega), if_neg (fun h => hlt h.2), Option.getD_none]
    | true =>
      have hvalue : withSign true n = -(n : Int) := rfl
      rw [hvalue] at hsigned ⊢
      rw [if_neg (by omega), if_neg (by simp), Option.getD_none]

variable {cs : List Char} {negative : Bool}

theorem ofTrimmed?_of_integerForm {n : Nat} (h : IntegerForm cs negative n) :
    ofTrimmed? cs = some (ofInteger negative n (Numeral.toBinary64 ⟨negative, n, 0⟩)) := by
  have hinteger : integerOfText? cs = some (withSign negative n) :=
    integerOfText?_eq_some_iff.mpr ⟨negative, n, h, rfl⟩
  have hread : ofTrimmed? cs =
      some ((ofInt? (withSign negative n)).getD (.float (Numeral.toBinary64 ⟨negative, n, 0⟩))) := by
    simp only [ofTrimmed?, hinteger, radixLiteral?_of_parse? h.parse?, h.parse?, Option.bind_some]
    cases ofInt? (withSign negative n) <;> rfl
  rw [hread, getD_ofInt?_withSign]

theorem ofTrimmed?_of_radixForm {n : Nat} (h : RadixForm cs n) : ofTrimmed? cs = ofInt? n := by
  cases h with
  | @mk mark radix ds n hmark hne hds =>
    have hradix : radixLiteral? ('0' :: mark :: ds) = some (radix, ds) :=
      radixLiteral?_eq_some_iff.mpr ⟨mark, rfl, hmark⟩
    have hdigits := (natOfDigits?_eq_some_iff hmark.le).mpr ⟨hne, hds⟩
    have hread : ofTrimmed? ('0' :: mark :: ds) = (natOfDigits? radix ds).bind fun n => ofInt? n := by
      simp only [ofTrimmed?, hmark.integerOfText?, hradix, Option.bind_none]
    rw [hread, hdigits, Option.bind_some]

theorem ofTrimmed?_of_decimalForm {q : ℚ} (h : DecimalForm cs negative q) :
    ∃ x : Binary64, x.RoundsTo negative q ∧ ofTrimmed? cs = some (.float x) := by
  obtain ⟨m, e, hread, rfl⟩ := h.exists_parse?
  refine ⟨_, roundsTo_toBinary64 ⟨negative, m, e⟩, ?_⟩
  simp only [ofTrimmed?, h.integerOfText?, radixLiteral?_of_parse? hread, hread, Option.bind_none]
  rfl

/-- What is read has one of the forms. -/
theorem form_of_ofTrimmed? {m : Number} (h : ofTrimmed? cs = some m) :
    (∃ negative n, IntegerForm cs negative n) ∨ (∃ n, RadixForm cs n) ∨
      ∃ negative q, DecimalForm cs negative q := by
  cases hinteger : integerOfText? cs with
  | some i =>
    obtain ⟨negative, n, hform, -⟩ := integerOfText?_eq_some_iff.mp hinteger
    exact .inl ⟨negative, n, hform⟩
  | none =>
    cases hradix : radixLiteral? cs with
    | some literal =>
      obtain ⟨radix, ds⟩ := literal
      obtain ⟨mark, rfl, hmark⟩ := radixLiteral?_eq_some_iff.mp hradix
      simp only [ofTrimmed?, hinteger, hradix, Option.bind_none] at h
      obtain ⟨n, hn, -⟩ := Option.bind_eq_some_iff.mp h
      obtain ⟨hne, hds⟩ := (natOfDigits?_eq_some_iff hmark.le).mp hn
      exact .inr (.inl ⟨n, .mk hmark hne hds⟩)
    | none =>
      simp only [ofTrimmed?, hinteger, hradix, Option.bind_none] at h
      obtain ⟨x, hx, -⟩ := Option.map_eq_some_iff.mp h
      rcases forms_of_parse? hx with ⟨hform, -⟩ | hform
      · exact .inl ⟨_, _, hform⟩
      · exact .inr (.inr ⟨_, _, hform⟩)

theorem ofText?_of_ne_nil {s : String} {t : List Char} (ht : Text.trimChars s.toList = t) (h : t ≠ []) :
    ofText? s = ofTrimmed? t := by
  obtain ⟨c, rest, rfl⟩ := List.exists_cons_of_ne_nil h
  rw [ofText?, ht]

end Number

namespace Json

/-- A blank text reads as zero; an integer as the word that holds it, or else as the nearest double; a
literal with a radix mark as the word that holds it, if there is one; a decimal as the nearest double. All
other texts have no numeric reading. -/
theorem text_reads_by_form {s : String} {t : List Char} (ht : Text.trimChars s.toList = t) :
    (t = [] → (Json.string s).toNumber? = some (.signed 0)) ∧
    (∀ negative n, IntegerForm t negative n → ∃! x : Binary64, x.RoundsTo negative n ∧
      (Json.string s).toNumber? = some (Number.ofInteger negative n x)) ∧
    (∀ n, RadixForm t n → (Json.string s).toNumber? =
      if n < 2 ^ 63 then some (.signed (Int64.ofInt n))
      else if n < 2 ^ 64 then some (.unsigned (UInt64.ofNat n))
      else none) ∧
    (∀ negative q, DecimalForm t negative q → ∃! x : Binary64, x.RoundsTo negative q ∧
      (Json.string s).toNumber? = some (.float x)) ∧
    (t ≠ [] → (∀ negative n, ¬ IntegerForm t negative n) → (∀ n, ¬ RadixForm t n) →
      (∀ negative q, ¬ DecimalForm t negative q) → (Json.string s).toNumber? = none) := by
  have hreading : t ≠ [] → (Json.string s).toNumber? = Number.ofTrimmed? t := Number.ofText?_of_ne_nil ht
  have hparsed : ∀ {x : Numeral}, Numeral.parse? t = some x → t ≠ [] := by
    rintro x hx hnil
    rw [hnil] at hx
    cases hx
  refine ⟨fun hblank => ?_, fun negative n h => ?_, fun n h => ?_, fun negative q h => ?_, ?_⟩
  · change Number.ofText? s = some (.signed 0)
    rw [Number.ofText?, ht, hblank]
  · have hrounds := roundsTo_toBinary64 ⟨negative, n, 0⟩
    rw [zpow_zero, mul_one] at hrounds
    have hread := (hreading (hparsed h.parse?)).trans (Number.ofTrimmed?_of_integerForm h)
    exact ⟨_, ⟨hrounds, hread⟩, fun y hy => hy.1.unique hrounds⟩
  · have hne : t ≠ [] := by
      intro hnil
      rw [hnil] at h
      cases h
    rw [hreading hne, Number.ofTrimmed?_of_radixForm h, Number.ofInt?_eq]
    split_ifs <;> first | rfl | omega
  · obtain ⟨m, e, hread, -⟩ := h.exists_parse?
    obtain ⟨x, hrounds, hx⟩ := Number.ofTrimmed?_of_decimalForm h
    exact ⟨x, ⟨hrounds, (hreading (hparsed hread)).trans hx⟩, fun y hy => hy.1.unique hrounds⟩
  · intro hne hinteger hradix hdecimal
    rw [hreading hne, Option.eq_none_iff_forall_ne_some]
    intro m hm
    rcases Number.form_of_ofTrimmed? hm with ⟨negative, n, h⟩ | ⟨n, h⟩ | ⟨negative, q, h⟩
    · exact hinteger negative n h
    · exact hradix n h
    · exact hdecimal negative q h

/-- An integer below the words and a decimal beyond the doubles are rounded, the latter to infinity; a
literal with a radix mark still fits the unsigned word. -/
theorem text_reads_by_form_limits :
    let integer := "\u2003-9223372036854775809"
    let decimal := "+.1E+400 "
    let literal := "0X8000000000000000"
    IntegerForm (Text.trimChars integer.toList) true 9223372036854775809 ∧
    (Json.string integer).toNumber? = some (.float ⟨0xC3E0000000000000⟩) ∧
    RoundsTo ⟨0xC3E0000000000000⟩ true (9223372036854775809 : Nat) ∧
    DecimalForm (Text.trimChars decimal.toList) false (10 ^ 399) ∧
    (Json.string decimal).toNumber? = some (.float ⟨0x7FF0000000000000⟩) ∧
    RoundsTo ⟨0x7FF0000000000000⟩ false (10 ^ 399) ∧
    RadixForm (Text.trimChars literal.toList) 9223372036854775808 ∧
    (Json.string literal).toNumber? = some (.unsigned 9223372036854775808) := by
  intro integer decimal literal
  have hdigits : ∀ {radix n : Nat} {ds : List Char}, radix ≤ 16 → natOfDigits? radix ds = some n →
      Digits radix ds n := fun hle h => ((natOfDigits?_eq_some_iff hle).mp h).2
  have hinteger : IntegerForm (Text.trimChars integer.toList) true 9223372036854775809 := by
    have htrim : Text.trimChars integer.toList = '-' :: "9223372036854775809".toList := by decide +kernel
    rw [htrim]
    exact .mk .minus (by decide) (hdigits (by decide) (by decide +kernel))
  have hdecimal : DecimalForm (Text.trimChars decimal.toList) false (10 ^ 399) := by
    have htrim : Text.trimChars decimal.toList = '+' :: '.' :: '1' :: 'E' :: '+' :: "400".toList := by
      decide +kernel
    have hfraction : Digits 10 ['1'] 1 := hdigits (by decide) (by decide)
    have hpower : Power ('E' :: '+' :: "400".toList) 400 :=
      .written (.inr rfl) .plus (by decide) (hdigits (by decide) (by decide +kernel))
    rw [htrim]
    have hform := DecimalForm.pointed .plus .nil hfraction (.inr (List.cons_ne_nil _ _)) hpower
    have hvalue : (((0 : Nat) + (1 : Nat) / 10 ^ ['1'].length) * 10 ^ (400 : Int) : ℚ) = 10 ^ 399 := by
      have hpow : (10 : ℚ) ^ (400 : Int) = 10 ^ 399 * 10 := (zpow_ofNat 10 400).trans (pow_succ 10 399)
      rw [hpow]
      push_cast
      field_simp
      simp
    rwa [hvalue] at hform
  have hliteral : RadixForm (Text.trimChars literal.toList) 9223372036854775808 := by
    have htrim : Text.trimChars literal.toList = '0' :: 'X' :: "8000000000000000".toList := by decide +kernel
    rw [htrim]
    exact .mk (.hexadecimal (.inr rfl)) (by decide) (hdigits (by decide) (by decide +kernel))
  have hbelow : (Json.string integer).toNumber? = some (.float ⟨0xC3E0000000000000⟩) := by decide +kernel
  have hbeyond : (Json.string decimal).toNumber? = some (.float ⟨0x7FF0000000000000⟩) := by decide +kernel
  obtain ⟨-, hintegers, -⟩ := text_reads_by_form (s := integer) rfl
  obtain ⟨-, -, -, hdecimals, -⟩ := text_reads_by_form (s := decimal) rfl
  obtain ⟨-, -, hliterals, -⟩ := text_reads_by_form (s := literal) rfl
  obtain ⟨x, ⟨hx, hreadx⟩, -⟩ := hintegers true _ hinteger
  obtain ⟨y, ⟨hy, hready⟩, -⟩ := hdecimals false _ hdecimal
  rw [hbelow] at hreadx
  rw [hbeyond] at hready
  obtain rfl : ⟨0xC3E0000000000000⟩ = x := Number.float.inj (Option.some.inj hreadx)
  obtain rfl : ⟨0x7FF0000000000000⟩ = y := Number.float.inj (Option.some.inj hready)
  exact ⟨hinteger, hbelow, hx, hdecimal, hbeyond, hy, hliteral, hliterals _ hliteral⟩

end Json
end Sift
