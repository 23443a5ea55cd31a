import Sift.Json.Reader
import Sift.Proofs.Number.Reading

/-! # Number literals

A number literal of JSON is a written numeral without a zero in front, and the number that it denotes is
the one that its text is read as. Only the literal of minus zero is an exception: it denotes a double, and
its text is an integer.
-/
namespace Sift.Json
open Numeral

/-- Minus zero, as a double. -/
def minusZero : Number := .float ⟨0x8000000000000000⟩

theorem wholeDigits?_eq_some {cs ds rest : List Char} (h : wholeDigits? cs = some (ds, rest)) :
    cs = ds ++ rest ∧ ds ≠ [] ∧ (∀ c ∈ ds, c.isDigit = true) ∧ (ofDigits ds = 0 → ds = ['0']) := by
  unfold wholeDigits? at h
  split at h
  · obtain ⟨rfl, rfl⟩ := Prod.mk.inj (Option.some.inj h)
    exact ⟨rfl, List.cons_ne_nil _ _, List.forall_mem_singleton.mpr rfl, fun _ => rfl⟩
  · next hzero =>
    split at h
    · cases h
    · next taken after hne htaken =>
      obtain ⟨rfl, rfl⟩ := Prod.mk.inj (Option.some.inj h)
      obtain ⟨rfl, hdigits, -⟩ := takeDigits_eq htaken
      refine ⟨rfl, hne, hdigits, fun hvalue => ?_⟩
      -- A row without a zero in front does not denote zero.
      have hlead : taken.head? ≠ some '0' := by
        intro hhead
        obtain ⟨tail, rfl⟩ := List.head?_eq_some_iff.mp hhead
        exact hzero _ rfl
      have hpos := (eq_toDigits_of_natOfDigits? (natOfDigits?_of_isDigit hne hdigits) hlead).2
      omega

theorem fractionDigits?_eq_some {cs ds rest : List Char} (h : fractionDigits? cs = some (ds, rest)) :
    cs = pointText ds ++ rest ∧ (∀ c ∈ ds, c.isDigit = true) ∧ (ds = [] → ∀ c ∈ cs.head?, c ≠ '.') := by
  unfold fractionDigits? at h
  split at h
  · split at h
    · cases h
    · next taken after hne htaken =>
      obtain ⟨rfl, rfl⟩ := Prod.mk.inj (Option.some.inj h)
      obtain ⟨rfl, hdigits, -⟩ := takeDigits_eq htaken
      obtain ⟨d, tail, rfl⟩ := List.exists_cons_of_ne_nil hne
      exact ⟨rfl, hdigits, fun hnil => absurd hnil hne⟩
  · next hpoint =>
    obtain ⟨rfl, rfl⟩ := Prod.mk.inj (Option.some.inj h)
    refine ⟨rfl, fun c hc => absurd hc List.not_mem_nil, fun _ c hc hdot => ?_⟩
    obtain ⟨tail, hcs⟩ := List.head?_eq_some_iff.mp hc
    exact hpoint tail (hdot ▸ hcs)

theorem power_eq_some {cs rest : List Char} {e : Int} (h : takePower? cs = some (e, rest)) :
    ∃ power, cs = power ++ rest ∧ takePower? power = some (e, []) ∧
      (power = [] → ∀ c ∈ cs.head?, c ≠ 'e' ∧ c ≠ 'E') := by
  rcases takePower?_cases h with ⟨rfl, rfl, hhead⟩ | ⟨c, sign, negative, ds, rfl, hc, hsign, hne, hds, rfl⟩
  · exact ⟨[], rfl, takePower?_nil, fun _ => hhead⟩
  · exact ⟨c :: (sign ++ ds), by simp, takePower?_of_letter hc hsign hne hds,
      fun hnil => absurd hnil (List.cons_ne_nil _ _)⟩

theorem finite?_eq_some {x : Binary64} {n : Number} (h : finite? x = some n) : n = .float x := by
  obtain ⟨-, hn⟩ := Option.ite_none_right_eq_some.mp h
  exact (Option.some.inj hn).symm

theorem isFloatTail_eq_false {cs : List Char} (h : ∀ c ∈ cs.head?, c ≠ '.' ∧ c ≠ 'e' ∧ c ≠ 'E') :
    isFloatTail cs = false := by
  cases cs with
  | nil => rfl
  | cons c cs =>
    obtain ⟨hpoint, he, hE⟩ := h c rfl
    simp [isFloatTail, hpoint, he, hE]

theorem isFloatTail_of_not_isInteger {w : Written} (h : ¬ w.IsInteger) (after : List Char) :
    isFloatTail (pointText w.fraction ++ w.power ++ after) = true := by
  obtain ⟨c, tail, hc, hletter⟩ := w.exists_tail h
  rw [hc]
  rcases hletter with rfl | rfl | rfl <;> rfl

/-- The number of a literal without point and exponent is its text's, unless the literal is minus zero. -/
theorem eq_number_of_isInteger {w : Written} {n : Number} (hinteger : w.IsInteger)
    (hzero : ofDigits w.whole = 0 → w.whole = ['0'])
    (h : (ofInteger? w.negative (ofDigits w.whole)).or (finite? w.numeral.toBinary64) = some n) :
    n = w.number ∨ n = minusZero ∧ w.text = ['-', '0'] := by
  by_cases hminus : w.negative = true ∧ ofDigits w.whole = 0
  · obtain ⟨hnegative, hvalue⟩ := hminus
    have hwhole := hzero hvalue
    have hnone : ofInteger? w.negative (ofDigits w.whole) = none := by simp [ofInteger?, hnegative, hvalue]
    have hnumeral : w.numeral.toBinary64 = ⟨0x8000000000000000⟩ := by
      have hmantissa : ofDigits ['0'] = 0 := rfl
      have hword : Binary64.ofMagnitude true 0 = ⟨0x8000000000000000⟩ := by decide
      rw [Written.numeral, ofParts, Numeral.toBinary64, hinteger.1, hnegative, hwhole, List.append_nil,
        hmantissa, Binary64.ofDecimal_eq, Binary64.magnitudeOfDecimal_zero, hword]
    rw [hnone, Option.none_or, hnumeral] at h
    refine .inr ⟨finite?_eq_some h, ?_⟩
    rw [Written.text, hnegative, hwhole, hinteger.1, hinteger.2]
    rfl
  · have hword : ofInteger? w.negative (ofDigits w.whole) = Number.ofInt? w.integer := by
      simp only [ofInteger?, Bool.and_eq_true, decide_eq_true_eq, hminus, if_false, Written.integer]
    rw [hword] at h
    refine .inl ?_
    rw [Written.number, if_pos hinteger]
    cases hn : Number.ofInt? w.integer with
    | some m =>
      rw [hn] at h
      exact (Option.some.inj h).symm
    | none =>
      rw [hn, Option.none_or] at h
      exact finite?_eq_some h

/-- A literal at the front of a text is a written numeral, and it denotes what that is read as. -/
theorem number?_eq_some {cs rest : List Char} {n : Number} (h : number? cs = some (n, rest)) :
    ∃ w : Written, cs = w.text ++ rest ∧ (n = w.number ∨ n = minusZero ∧ w.text = ['-', '0']) := by
  unfold number? at h
  split at h
  next negative body hsign =>
  have hcs : cs = signText negative ++ body := by
    split at hsign <;> obtain ⟨rfl, rfl⟩ := Prod.mk.inj hsign <;> rfl
  obtain ⟨⟨whole, afterWhole⟩, hwhole, h⟩ := Option.bind_eq_some_iff.mp h
  obtain ⟨⟨fraction, afterFraction⟩, hfraction, h⟩ := Option.bind_eq_some_iff.mp h
  obtain ⟨⟨e, after⟩, hpower, h⟩ := Option.bind_eq_some_iff.mp h
  obtain ⟨m, hm, h⟩ := Option.bind_eq_some_iff.mp h
  obtain ⟨rfl, rfl⟩ := Prod.mk.inj (Option.some.inj h)
  obtain ⟨rfl, hne, hdigits, hzero⟩ := wholeDigits?_eq_some hwhole
  obtain ⟨rfl, hfdigits, hpoint⟩ := fractionDigits?_eq_some hfraction
  obtain ⟨power, rfl, hpower, hletter⟩ := power_eq_some hpower
  obtain ⟨w, hw⟩ : ∃ w : Written, w = ⟨negative, whole, fraction, power, e, hne, hdigits, hfdigits, hpower⟩ :=
    ⟨_, rfl⟩
  have htext : cs = w.text ++ after := by
    rw [hcs, hw, Written.text]
    simp only [List.append_assoc]
  refine ⟨w, htext, ?_⟩
  have hnumeral : ofParts negative whole fraction e = w.numeral := by rw [hw]; rfl
  rw [hnumeral] at hm
  by_cases hinteger : w.IsInteger
  · have hfraction : fraction = [] := by
      have hnil := hinteger.1
      rwa [hw] at hnil
    have hpowernil : power = [] := by
      have hnil := hinteger.2
      rwa [hw] at hnil
    subst hfraction hpowernil
    have htail : isFloatTail (pointText [] ++ ([] ++ after)) = false := by
      refine isFloatTail_eq_false fun c hc => ⟨hpoint rfl c hc, hletter rfl c hc⟩
    rw [htail, if_neg Bool.false_ne_true] at hm
    refine eq_number_of_isInteger hinteger ?_ ?_
    · rwa [hw]
    · rwa [hw] at hm ⊢
  · have htail : isFloatTail (pointText fraction ++ (power ++ after)) = true := by
      have htail := isFloatTail_of_not_isInteger hinteger after
      rwa [hw, List.append_assoc] at htail
    rw [htail, if_pos rfl, Option.none_or] at hm
    refine .inl ?_
    rw [finite?_eq_some hm, Written.number, if_neg hinteger, Option.getD_none]

theorem value?_eq_number {depth : Nat} {cs rest : List Char} {n : Number}
    (h : value? depth cs = some (.number n, rest)) : number? (skipSpace cs) = some (n, rest) := by
  have hkind : ∀ {α : Type} {f : α × List Char → Json × List Char} {o : Option (α × List Char)},
      (∀ p, (f p).1.kind ≠ .number) → o.map f ≠ some (.number n, rest) := by
    intro α f o hf hmap
    obtain ⟨p, -, hp⟩ := Option.map_eq_some_iff.mp hmap
    refine hf p ?_
    rw [hp, kind]
  unfold value? at h
  split at h
  · exact absurd h (hkind fun _ => by simp [kind])
  · cases depth with
    | zero => cases h
    | succ depth => exact absurd h (hkind fun _ => by simp [kind])
  · cases depth with
    | zero => cases h
    | succ depth => exact absurd h (hkind fun _ => by simp [kind])
  · obtain ⟨after, -, hp⟩ := Option.map_eq_some_iff.mp h
    cases hp
  · obtain ⟨after, -, hp⟩ := Option.map_eq_some_iff.mp h
    cases hp
  · obtain ⟨after, -, hp⟩ := Option.map_eq_some_iff.mp h
    cases hp
  · obtain ⟨⟨m, after⟩, hm, hp⟩ := Option.map_eq_some_iff.mp h
    cases hp
    exact hm

theorem isBlank_of_isSpace {c : Char} (h : isSpace c = true) : Text.isBlank c = true := by
  simp only [isSpace, Bool.or_eq_true, beq_iff_eq] at h
  rcases h with ((rfl | rfl) | rfl) | rfl <;> rfl

theorem eq_of_canonical_eq_number {v : Json} {n : Number} (h : canonical v = .number n) : v = .number n := by
  cases v with
  | number m => exact h
  | null | bool _ | string _ | array _ | object _ =>
    unfold canonical at h
    cases h

/-- A text that JSON reads as a number is a written numeral with blanks around it. -/
theorem parse?_eq_number {text : String} {n : Number} (h : parse? text = some (.number n)) :
    ∃ w : Written, Text.trimChars text.toList = w.text ∧
      (n = w.number ∨ n = minusZero ∧ w.text = ['-', '0']) := by
  obtain ⟨v, hv, hcanonical⟩ := Option.map_eq_some_iff.mp h
  obtain rfl := eq_of_canonical_eq_number hcanonical
  unfold read? at hv
  split at hv
  · next u rest hvalue =>
    obtain ⟨hspace, hu⟩ := Option.ite_none_right_eq_some.mp hv
    obtain rfl := Option.some.inj hu
    obtain ⟨w, hw, hn⟩ := number?_eq_some (value?_eq_number hvalue)
    refine ⟨w, ?_, hn⟩
    have hfront : ∀ c ∈ text.toList.takeWhile isSpace, Text.isBlank c = true :=
      fun c hc => isBlank_of_isSpace (List.mem_takeWhile_imp hc)
    have hback : ∀ c ∈ rest, Text.isBlank c = true :=
      fun c hc => isBlank_of_isSpace (List.all_eq_true.mp hspace c hc)
    have hsplit : text.toList = text.toList.takeWhile isSpace ++ (w.text ++ rest) := by
      rw [← hw, skipSpace, List.takeWhile_append_dropWhile]
    rw [hsplit, Text.trimChars_append_left hfront, Text.trimChars_append_right _ hback, w.trimChars_text]
  · cases hv

end Sift.Json
