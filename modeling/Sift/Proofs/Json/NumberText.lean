import Sift.Json.Printer
import Sift.Proofs.Json.Literal
import Sift.Proofs.Number.Text

/-! # Number literals read back

The text that JSON gives a number is a literal without a zero in front, and in front of a comma, a closing
bracket, a blank or the end of the text it is read as that number. An integer has neither a point nor an
exponent, and a double has at least one of them, so that none of them comes back as the other; the sign of
zero is kept.
-/
namespace Sift

namespace Numeral

/-- No literal goes on with the first character. -/
def Ends (rest : List Char) : Prop := ∀ c ∈ rest.head?, c.isDigit = false ∧ c ≠ '.' ∧ c ≠ 'e' ∧ c ≠ 'E'

theorem takePower?_append {power rest : List Char} {e : Int} (h : takePower? power = some (e, []))
    (hrest : Ends rest) : takePower? (power ++ rest) = some (e, rest) := by
  rcases takePower?_cases h with ⟨rfl, rfl, -⟩ | ⟨c, sign, negative, ds, rfl, hc, hsign, hne, hds, rfl⟩
  · cases rest with
    | nil => rfl
    | cons c cs =>
      obtain ⟨-, -, he, hE⟩ := hrest c rfl
      simp [takePower?, he, hE]
  · have hread := takePower?_letter hc hsign hne hds fun c hc => (hrest c hc).1
    rwa [List.append_nil, List.cons_append, List.append_assoc]

namespace Written
variable (w : Written)

/-- No zero stands in front of another digit. -/
def IsLiteral : Prop := w.whole.head? = some '0' → w.whole = ['0']

/-- The number that the text denotes as a literal. -/
def literal? : Option Number :=
  (if w.IsInteger then Json.ofInteger? w.negative (ofDigits w.whole) else none).or
    (Json.finite? w.numeral.toBinary64)

variable {w : Written} {rest : List Char}

/-- The text behind the whole part goes on with no digit. -/
theorem not_isDigit_tail (hrest : Ends rest) :
    ∀ c ∈ (pointText w.fraction ++ w.power ++ rest).head?, c.isDigit = false := by
  intro c hc
  by_cases hnil : pointText w.fraction ++ w.power = []
  · rw [hnil] at hc
    exact (hrest c hc).1
  · rw [List.head?_append_of_ne_nil _ hnil] at hc
    rcases w.head?_tail c hc with rfl | rfl | rfl <;> rfl

theorem wholeDigits?_whole (h : w.IsLiteral) {tail : List Char}
    (htail : ∀ c ∈ tail.head?, c.isDigit = false) :
    Json.wholeDigits? (w.whole ++ tail) = some (w.whole, tail) := by
  obtain ⟨d, ds, hw, -⟩ := w.exists_whole
  by_cases hzero : d = '0'
  · have hone := h (by rw [hw, hzero]; rfl)
    rw [hone]
    rfl
  · have htake := takeDigits_append w.isDigit_whole htail
    unfold Json.wholeDigits?
    split
    · next rest' heq =>
      rw [hw] at heq
      exact absurd (List.cons.inj heq).1 hzero
    · rw [htake, hw]

theorem fractionDigits?_fraction (hrest : Ends rest) :
    Json.fractionDigits? (pointText w.fraction ++ (w.power ++ rest)) = some (w.fraction, w.power ++ rest) := by
  have hhead : ∀ c ∈ (w.power ++ rest).head?, c.isDigit = false ∧ c ≠ '.' := by
    intro c hc
    rcases w.power_cases with hpower | ⟨d, tail, hpower, hd, -⟩
    · rw [hpower] at hc
      exact ⟨(hrest c hc).1, (hrest c hc).2.1⟩
    · rw [hpower] at hc
      obtain rfl : d = c := Option.some.inj hc
      rcases hd with rfl | rfl <;> exact ⟨rfl, by decide⟩
  cases hf : w.fraction with
  | nil =>
    unfold Json.fractionDigits?
    split
    · next tail heq =>
      have hpoint : '.' ∈ (w.power ++ rest).head? := by
        rw [← List.nil_append (w.power ++ rest)]
        exact congrArg List.head? heq
      exact absurd rfl (hhead '.' hpoint).2
    · rfl
  | cons d ds =>
    have htake := takeDigits_append w.isDigit_fraction fun c hc => (hhead c hc).1
    rw [hf] at htake
    simp only [pointText, List.cons_append, Json.fractionDigits?] at htake ⊢
    rw [htake]

/-- In front of what no literal goes on with, a literal is read as its number. -/
theorem number?_text_append (h : w.IsLiteral) (hrest : Ends rest) :
    Json.number? (w.text ++ rest) = w.literal?.map (·, rest) := by
  have htext : w.text ++ rest =
      signText w.negative ++ (w.whole ++ (pointText w.fraction ++ (w.power ++ rest))) := by
    simp only [text, List.append_assoc]
  obtain ⟨d, ds, hw, hd⟩ := w.exists_whole
  unfold Json.number?
  split
  next negative body hsign =>
  have hparts : negative = w.negative ∧ body = w.whole ++ (pointText w.fraction ++ (w.power ++ rest)) := by
    rw [htext] at hsign
    cases hneg : w.negative with
    | true =>
      rw [hneg] at hsign
      exact ⟨(Prod.mk.inj hsign).1.symm, (Prod.mk.inj hsign).2.symm⟩
    | false =>
      rw [hneg] at hsign
      simp only [signText, Bool.false_eq_true, if_false, List.nil_append] at hsign
      split at hsign
      · next tail heq =>
        rw [hw] at heq
        obtain rfl := (List.cons.inj heq).1
        cases hd
      · exact ⟨(Prod.mk.inj hsign).1.symm, (Prod.mk.inj hsign).2.symm⟩
  obtain ⟨rfl, rfl⟩ := hparts
  have htail := not_isDigit_tail (w := w) hrest
  rw [List.append_assoc] at htail
  rw [wholeDigits?_whole h htail, Option.bind_eq_bind, Option.bind_some]
  simp only [fractionDigits?_fraction hrest, takePower?_append w.takePower?_power hrest, Option.bind_eq_bind,
    Option.bind_some]
  have hinteger : (if Json.isFloatTail (pointText w.fraction ++ (w.power ++ rest)) = true then none
      else Json.ofInteger? w.negative (ofDigits w.whole)) =
      if w.IsInteger then Json.ofInteger? w.negative (ofDigits w.whole) else none := by
    by_cases h : w.IsInteger
    · have hnone : Json.isFloatTail rest = false := Json.isFloatTail_eq_false fun c hc => (hrest c hc).2
      rw [if_pos h, h.1, h.2]
      simp only [pointText, List.nil_append, hnone, Bool.false_eq_true, if_false]
    · have hsome := Json.isFloatTail_of_not_isInteger h rest
      rw [List.append_assoc] at hsome
      rw [if_neg h, hsome, if_pos rfl]
  rw [hinteger]
  exact Option.map_eq_bind.symm

/-! ## Integers -/

theorem isLiteral_ofInt (i : Int) : (ofInt i).IsLiteral := by
  intro hzero
  have hvalue : i.natAbs = 0 := by
    by_contra hne
    exact head?_toDigits_ne_zero (Nat.pos_of_ne_zero hne) hzero
  change Nat.toDigits 10 i.natAbs = ['0']
  rw [hvalue]
  rfl

theorem literal?_ofInt {i : Int} {n : Number} (h : Number.ofInt? i = some n) : (ofInt i).literal? = some n := by
  have hvalue : ofDigits (ofInt i).whole = i.natAbs := ofDigits_toDigits i.natAbs
  have hsign : (ofInt i).negative = decide (i < 0) := rfl
  have hminus : (decide (i < 0) && decide (i.natAbs = 0)) = false := by
    rw [Bool.and_eq_false_iff, decide_eq_false_iff_not, decide_eq_false_iff_not]
    omega
  have hword : (if decide (i < 0) = true then -(i.natAbs : Int) else i.natAbs) = i := by
    simp only [decide_eq_true_eq]
    split <;> omega
  rw [literal?, if_pos ⟨rfl, rfl⟩, Json.ofInteger?, hvalue, hsign, hminus, if_neg Bool.false_ne_true, hword, h,
    Option.some_or]

/-! ## Doubles -/

/-- A numeral with a point or an exponent denotes its double, if that is finite. -/
theorem literal?_of_double {x : Binary64} (h : ¬ w.IsInteger) (hx : x.isFinite = true)
    (hvalue : w.numeral.toBinary64 = x) : w.literal? = some (.float x) := by
  rw [literal?, if_neg h, Option.none_or, hvalue, Json.finite?, if_pos hx]

end Written

end Numeral

namespace Decimal
open Numeral Binary64

theorem head?_significant {d : Decimal} (h : 0 < d.digits) : d.significant.head? ≠ some '0' := by
  obtain ⟨k, hk⟩ := d.toDigits_eq
  have hhead := head?_toDigits_ne_zero h
  rwa [hk, List.head?_append_of_ne_nil _ (significant_ne_nil h)] at hhead

/-- The digits behind a point that stands in any case. -/
def orZero : List Char → List Char
  | [] => ['0']
  | ds => ds

theorem orZero_ne_nil (ds : List Char) : orZero ds ≠ [] := by
  cases ds <;> exact List.cons_ne_nil _ _

theorem isDigit_orZero {ds : List Char} (h : ∀ c ∈ ds, c.isDigit = true) :
    ∀ c ∈ orZero ds, c.isDigit = true := by
  cases ds with
  | nil => exact List.forall_mem_singleton.mpr rfl
  | cons d ds => exact h

theorem isDigit_whole_part {digits : List Char} (h : ∀ c ∈ digits, c.isDigit = true) (lead : Int) :
    ∀ c ∈ (wholeAndFraction digits lead).1, c.isDigit = true := (isDigit_wholeAndFraction h lead).1

theorem isDigit_orZero_fraction {digits : List Char} (h : ∀ c ∈ digits, c.isDigit = true) (lead : Int) :
    ∀ c ∈ orZero (wholeAndFraction digits lead).2, c.isDigit = true :=
  isDigit_orZero (isDigit_wholeAndFraction h lead).2

theorem writePositional_keeping (digits : List Char) (lead : Int) :
    writePositional true digits lead =
      (wholeAndFraction digits lead).1 ++ Numeral.pointText (orZero (wholeAndFraction digits lead).2) := by
  unfold writePositional
  split
  · next whole h => rw [h]; rfl
  · next whole fraction hne h =>
    rw [h]
    cases fraction with
    | nil => exact absurd rfl hne
    | cons d ds => rfl

end Decimal

namespace Numeral.Written
open Decimal Binary64

/-- Digits with a point among them or behind them, as a written numeral. -/
def pointed (negative : Bool) {digits : List Char} (hne : digits ≠ []) (h : ∀ c ∈ digits, c.isDigit = true)
    (lead : Int) : Written where
  negative := negative
  whole := (wholeAndFraction digits lead).1
  fraction := orZero (wholeAndFraction digits lead).2
  power := []
  exponent := 0
  whole_ne_nil := whole_part_ne_nil hne lead
  isDigit_whole := isDigit_whole_part h lead
  isDigit_fraction := isDigit_orZero_fraction h lead
  takePower?_power := takePower?_nil

section
variable (negative : Bool) {digits : List Char} (hne : digits ≠ []) (h : ∀ c ∈ digits, c.isDigit = true)
  (lead : Int)

theorem text_pointed :
    (pointed negative hne h lead).text = signText negative ++ writePositional true digits lead := by
  rw [writePositional_keeping, text]
  simp only [pointed, List.append_nil]

theorem not_isInteger_pointed : ¬ (pointed negative hne h lead).IsInteger := by
  rintro ⟨hnil, -⟩
  exact orZero_ne_nil _ hnil

/-- A zero behind the point does not change the value. -/
theorem toBinary64_pointed :
    (pointed negative hne h lead).numeral.toBinary64 =
      ofMagnitude negative (magnitudeOfDecimal (ofDigits digits) (lead + 1 - digits.length)) := by
  rw [← toBinary64_plain negative hne h lead, numeral, numeral, Numeral.toBinary64, Numeral.toBinary64,
    ofDecimal_eq, ofDecimal_eq]
  simp only [pointed, plain, ofParts]
  cases (wholeAndFraction digits lead).2 with
  | nil =>
    have hzero := ofDigits_append_zeros (wholeAndFraction digits lead).1 1
    have hplace := magnitudeOfDecimal_mul_pow (ofDigits (wholeAndFraction digits lead).1) 1 (-1)
    rw [← hzero] at hplace
    rw [List.append_nil]
    exact congrArg (ofMagnitude negative) hplace
  | cons d ds => rfl

theorem isLiteral_pointed (hhead : digits.head? ≠ some '0') : (pointed negative hne h lead).IsLiteral := by
  intro hzero
  change (wholeAndFraction digits lead).1.head? = some '0' at hzero
  change (wholeAndFraction digits lead).1 = ['0']
  unfold wholeAndFraction at hzero ⊢
  split at hzero
  · next hlead => rw [if_pos hlead]
  · obtain ⟨d, ds, rfl⟩ := List.exists_cons_of_ne_nil hne
    exact absurd hzero hhead

end

theorem takePower?_signed (lead : Int) :
    takePower? ('e' :: (if lead < 0 then ['-'] else ['+']) ++ Nat.toDigits 10 lead.natAbs) =
      some (lead, []) := by
  have hsign : Sign (if lead < 0 then ['-'] else ['+']) (lead < 0) := by
    by_cases hlead : lead < 0
    · rw [if_pos hlead, decide_eq_true hlead]
      exact .minus
    · rw [if_neg hlead, decide_eq_false hlead]
      exact .plus
  have hread := takePower?_of_letter (.inl rfl) hsign Nat.toDigits_ne_nil (isDigit_toDigits lead.natAbs)
  rw [ofDigits_toDigits, withSign_natAbs] at hread
  exact hread

/-- Digits with an exponent, as a written numeral. -/
def scientific (negative : Bool) {d : Char} {ds : List Char} (h : ∀ c ∈ d :: ds, c.isDigit = true)
    (lead : Int) : Written where
  negative := negative
  whole := [d]
  fraction := ds
  power := 'e' :: (if lead < 0 then ['-'] else ['+']) ++ Nat.toDigits 10 lead.natAbs
  exponent := lead
  whole_ne_nil := List.cons_ne_nil _ _
  isDigit_whole := List.forall_mem_singleton.mpr (h d List.mem_cons_self)
  isDigit_fraction := fun c hc => h c (List.mem_cons_of_mem d hc)
  takePower?_power := takePower?_signed lead

section
variable (negative : Bool) {d : Char} {ds : List Char} (h : ∀ c ∈ d :: ds, c.isDigit = true) (lead : Int)

theorem text_scientific :
    (scientific negative h lead).text = signText negative ++ writeScientific true (d :: ds) lead := by
  cases ds <;> simp [text, scientific, writeScientific, pointText]

theorem toBinary64_scientific :
    (scientific negative h lead).numeral.toBinary64 =
      ofMagnitude negative (magnitudeOfDecimal (ofDigits (d :: ds)) (lead + 1 - (d :: ds).length)) := by
  rw [numeral, Numeral.toBinary64, ofDecimal_eq]
  simp only [scientific, ofParts, List.cons_append, List.nil_append, List.length_cons]
  congr 2
  omega

end

end Numeral.Written

namespace Json
open Numeral Binary64

theorem exists_literal_of_toInt? {n : Number} {i : Int} (hi : n.toInt? = some i) (hn : n.IsJson) :
    ∃ w : Written, integerText i = w.text ∧ w.IsLiteral ∧ w.literal? = some n :=
  ⟨.ofInt i, (Written.text_ofInt i).symm, Written.isLiteral_ofInt i,
    Written.literal?_ofInt (Number.ofInt?_eq_some_iff.mpr ⟨hi, hn⟩)⟩

/-- The text of a finite double is a literal of it, with its sign also where it is zero. -/
theorem exists_literal_float {x : Binary64} (hx : x.isFinite = true) :
    ∃ w : Written, floatLayout.write x = w.text ∧ w.IsLiteral ∧ w.literal? = some (.float x) := by
  have hle : x.magnitude ≤ infinityMagnitude := Nat.le_of_lt (of_decide_eq_true hx)
  have hself : ∀ {y : Binary64}, y = ofMagnitude x.isNegative x.magnitude → y = x := by
    rintro y rfl
    refine eq_of_parts (isNegative_ofMagnitude _ _) (magnitude_ofMagnitude _ ?_)
    exact Nat.lt_of_le_of_lt hle infinityMagnitude_lt
  -- Zero is written apart, as 0.0 behind its sign.
  by_cases hzero : x.magnitude = 0
  · have hdigits : ∀ c ∈ ['0'], c.isDigit = true := List.forall_mem_singleton.mpr rfl
    refine ⟨.pointed x.isNegative (List.cons_ne_nil '0' []) hdigits 0, ?_, fun _ => rfl,
      Written.literal?_of_double (Written.not_isInteger_pointed _ _ _ _) hx (hself ?_)⟩
    · rw [Written.text_pointed, Decimal.Layout.write, if_pos hzero]
      rfl
    · rw [Written.toBinary64_pointed, hzero]
      exact congrArg (ofMagnitude x.isNegative) (magnitudeOfDecimal_zero _)
  · obtain ⟨d, hd⟩ : ∃ d, Decimal.shortest floatLayout.tie x.magnitude = d := ⟨_, rfl⟩
    have hreads := Decimal.magnitudeOfDecimal_shortest floatLayout.tie hle
    have hpos := Decimal.digits_shortest_pos floatLayout.tie hle hzero
    rw [hd] at hreads hpos
    have hne := Decimal.significant_ne_nil hpos
    have hvalue := d.magnitudeOfDecimal_significant.trans hreads
    by_cases hpositional : floatLayout.positional d.lead = true
    · refine ⟨.pointed x.isNegative hne d.isDigit_significant d.lead, ?_,
        Written.isLiteral_pointed _ _ _ _ (Decimal.head?_significant hpos),
        Written.literal?_of_double (Written.not_isInteger_pointed _ _ _ _) hx (hself ?_)⟩
      · rw [Written.text_pointed, Decimal.Layout.write, if_neg hzero, hd]
        simp only [hpositional, if_true]
        rfl
      · rw [Written.toBinary64_pointed, hvalue]
    · have hdigits := d.isDigit_significant
      have hhead := Decimal.head?_significant hpos
      obtain ⟨c, cs, hc⟩ := List.exists_cons_of_ne_nil hne
      rw [hc] at hdigits hhead hvalue
      refine ⟨.scientific x.isNegative hdigits d.lead, ?_, fun h => absurd h hhead,
        Written.literal?_of_double (fun h => List.cons_ne_nil _ _ h.2) hx (hself ?_)⟩
      · rw [Written.text_scientific, Decimal.Layout.write, if_neg hzero, hd, ← hc]
        simp only [hpositional]
        rfl
      · rw [Written.toBinary64_scientific, hvalue]

/-- The text of a number of JSON is a literal of it. -/
theorem exists_literal {n : Number} (hn : n.IsJson) :
    ∃ w : Written, numberText n = w.text ∧ w.IsLiteral ∧ w.literal? = some n := by
  cases n with
  | signed n => exact exists_literal_of_toInt? rfl hn
  | unsigned n => exact exists_literal_of_toInt? rfl hn
  | float x =>
    have hx : x.isFinite = true := hn
    rw [numberText, if_pos hx]
    exact exists_literal_float hx

/-- A number of JSON is read back from its text, whatever follows that no literal goes on with. -/
theorem number?_numberText {n : Number} (hn : n.IsJson) {rest : List Char} (hrest : Ends rest) :
    number? (numberText n ++ rest) = some (n, rest) := by
  obtain ⟨w, htext, hw, hliteral⟩ := exists_literal hn
  rw [htext, Written.number?_text_append hw hrest, hliteral]
  rfl

end Json
end Sift
