import Mathlib.Data.List.Induction
import Mathlib.Tactic.IntervalCases
import Sift.Proofs.Binary64.Nearest
import Sift.Proofs.Decimal.Written

/-! # The forms of numerals

What a numeral looks like and which value it denotes is said here without a reader: a row of digits of a
radix, an integer, a literal with a radix mark, and a decimal with a point or an exponent. The readers
accept these forms and no others, with these values.
-/
namespace Sift.Numeral

/-- A digit of a radix and its value; a letter may be of either case. -/
def DigitOf (radix : Nat) (c : Char) (v : Nat) : Prop :=
  v < radix ∧ (c = v.digitChar ∨ c = v.digitChar.toUpper)

/-- A row of digits and its value, where a digit counts for the power of the radix that its place has. -/
inductive Digits (radix : Nat) : List Char → Nat → Prop
  | nil : Digits radix [] 0
  | cons {c : Char} {v : Nat} {ds : List Char} {n : Nat} (hc : DigitOf radix c v) (hds : Digits radix ds n) :
      Digits radix (c :: ds) (v * radix ^ ds.length + n)

/-- An optional exponent. -/
inductive Power : List Char → Int → Prop
  | absent : Power [] 0
  | written {letter : Char} {sign ds : List Char} {negative : Bool} {n : Nat}
      (hletter : letter = 'e' ∨ letter = 'E') (hsign : Sign sign negative) (hne : ds ≠ [])
      (hds : Digits 10 ds n) : Power (letter :: (sign ++ ds)) (withSign negative n)

/-- The letter behind the zero of a literal, and its radix. -/
inductive RadixMark : Char → Nat → Prop
  | hexadecimal {c : Char} (h : c = 'x' ∨ c = 'X') : RadixMark c 16
  | octal {c : Char} (h : c = 'o' ∨ c = 'O') : RadixMark c 8
  | binary {c : Char} (h : c = 'b' ∨ c = 'B') : RadixMark c 2

/-- An optional sign and digits. -/
inductive IntegerForm : List Char → Bool → Nat → Prop
  | mk {sign ds : List Char} {negative : Bool} {n : Nat} (hsign : Sign sign negative) (hne : ds ≠ [])
      (hds : Digits 10 ds n) : IntegerForm (sign ++ ds) negative n

/-- A literal with a radix mark; it has no sign. -/
inductive RadixForm : List Char → Nat → Prop
  | mk {mark : Char} {radix : Nat} {ds : List Char} {n : Nat} (hmark : RadixMark mark radix) (hne : ds ≠ [])
      (hds : Digits radix ds n) : RadixForm ('0' :: mark :: ds) n

/-- An optional sign, and digits with a point among them, before them or behind them, or with an exponent;
a point may have an exponent too. The value is given without its sign. -/
inductive DecimalForm : List Char → Bool → ℚ → Prop
  | pointed {sign whole fraction power : List Char} {negative : Bool} {w f : Nat} {e : Int}
      (hsign : Sign sign negative) (hwhole : Digits 10 whole w) (hfraction : Digits 10 fraction f)
      (hne : whole ≠ [] ∨ fraction ≠ []) (hpower : Power power e) :
      DecimalForm (sign ++ (whole ++ '.' :: (fraction ++ power))) negative
        ((w + f / 10 ^ fraction.length) * 10 ^ e)
  | scaled {sign whole power : List Char} {negative : Bool} {w : Nat} {e : Int} (hsign : Sign sign negative)
      (hwhole : Digits 10 whole w) (hne : whole ≠ []) (hpower : Power power e) (hwritten : power ≠ []) :
      DecimalForm (sign ++ (whole ++ power)) negative (w * 10 ^ e)

/-! ## Rows of digits -/

/-- What holds of all characters of a range holds of a character in it. -/
theorem of_mem_range {a b c : Char} {p : Char → Prop} (hc : (a ≤ c && c ≤ b) = true)
    (h : ∀ k ∈ List.range' a.toNat (b.toNat + 1 - a.toNat), p (Char.ofNat k)) : p c := by
  obtain ⟨hlow, hhigh⟩ := Bool.and_eq_true_iff.mp hc
  have hlow : a.toNat ≤ c.toNat := UInt32.le_iff_toNat_le.mp (of_decide_eq_true hlow)
  have hhigh : c.toNat ≤ b.toNat := UInt32.le_iff_toNat_le.mp (of_decide_eq_true hhigh)
  rw [← Char.ofNat_toNat c]
  exact h c.toNat (List.mem_range'_1.mpr ⟨hlow, by omega⟩)

theorem digitOf_of_digitValue? {radix : Nat} (hradix : radix ≤ 16) {c : Char} {v : Nat}
    (h : digitValue? radix c = some v) : DigitOf radix c v := by
  unfold digitValue? at h
  obtain ⟨hlt, hv⟩ := Option.ite_none_right_eq_some.mp h
  obtain rfl := Option.some.inj hv
  refine ⟨hlt, ?_⟩
  clear h hv
  split_ifs at hlt with hdigit hlower hupper
  · apply of_mem_range hdigit
    decide
  · apply of_mem_range hlower
    decide
  · apply of_mem_range hupper
    decide
  · omega

theorem digitValue?_of_digitOf {radix : Nat} (hradix : radix ≤ 16) {c : Char} {v : Nat}
    (h : DigitOf radix c v) : digitValue? radix c = some v := by
  obtain ⟨hlt, hc⟩ := h
  have hvalue : digitValue? 16 c = some v := by
    have hv : v < 16 := hlt.trans_le hradix
    interval_cases v <;> rcases hc with rfl | rfl <;> rfl
  unfold digitValue? at hvalue ⊢
  obtain ⟨-, hv⟩ := Option.ite_none_right_eq_some.mp hvalue
  obtain rfl := Option.some.inj hv
  rw [if_pos hlt]

theorem digitValue?_eq_some_iff {radix : Nat} (hradix : radix ≤ 16) {c : Char} {v : Nat} :
    digitValue? radix c = some v ↔ DigitOf radix c v :=
  ⟨digitOf_of_digitValue? hradix, digitValue?_of_digitOf hradix⟩

/-- Reading goes on with what the digits before have brought, moved up by the places that are left. -/
theorem foldlM_digitValue?_iff {radix : Nat} (hradix : radix ≤ 16) {ds : List Char} {acc r : Nat} :
    ds.foldlM (fun n c => (digitValue? radix c).map (n * radix + ·)) acc = some r ↔
      ∃ n, Digits radix ds n ∧ r = acc * radix ^ ds.length + n := by
  induction ds generalizing acc with
  | nil =>
    rw [List.foldlM_nil]
    constructor
    · intro h
      exact ⟨0, .nil, by simpa using (Option.some.inj h).symm⟩
    · rintro ⟨n, h, rfl⟩
      cases h
      simp
  | cons c ds ih =>
    have hplace : ∀ v n, acc * radix ^ (c :: ds).length + (v * radix ^ ds.length + n) =
        (acc * radix + v) * radix ^ ds.length + n := by
      intro v n
      rw [List.length_cons, Nat.pow_succ', Nat.add_mul, Nat.mul_assoc acc, Nat.add_assoc]
    rw [List.foldlM_cons]
    constructor
    · intro h
      obtain ⟨m, hm, hrest⟩ := Option.bind_eq_some_iff.mp h
      obtain ⟨v, hv, rfl⟩ := Option.map_eq_some_iff.mp hm
      obtain ⟨n, hn, rfl⟩ := ih.mp hrest
      exact ⟨_, .cons ((digitValue?_eq_some_iff hradix).mp hv) hn, (hplace v n).symm⟩
    · rintro ⟨n, h, rfl⟩
      cases h with
      | @cons _ v _ n hc hds =>
        rw [(digitValue?_eq_some_iff hradix).mpr hc]
        exact ih.mpr ⟨n, hds, hplace v n⟩

theorem natOfDigits?_eq_some_iff {radix : Nat} (hradix : radix ≤ 16) {ds : List Char} {n : Nat} :
    natOfDigits? radix ds = some n ↔ ds ≠ [] ∧ Digits radix ds n := by
  cases ds with
  | nil => simp [natOfDigits?]
  | cons c ds =>
    rw [natOfDigits?, foldlM_digitValue?_iff hradix]
    · simp
    · simp

/-- A row of decimal digits has the value that it is read with. -/
theorem digits_ten_iff {ds : List Char} {n : Nat} :
    Digits 10 ds n ↔ (∀ c ∈ ds, c.isDigit = true) ∧ n = ofDigits ds := by
  by_cases hne : ds = []
  · subst hne
    constructor
    · intro h
      cases h
      exact ⟨List.forall_mem_nil _, rfl⟩
    · rintro ⟨-, rfl⟩
      exact .nil
  · have hread : Digits 10 ds n ↔ natOfDigits? 10 ds = some n := by
      rw [natOfDigits?_eq_some_iff (by decide)]
      exact (and_iff_right hne).symm
    rw [hread]
    constructor
    · intro h
      have hdigits : ∀ c ∈ ds, c.isDigit = true := by
        intro c hc
        by_contra hno
        rw [natOfDigits?_eq_none hc (by simpa using hno)] at h
        cases h
      rw [natOfDigits?_of_isDigit hne hdigits] at h
      exact ⟨hdigits, (Option.some.inj h).symm⟩
    · rintro ⟨hdigits, rfl⟩
      exact natOfDigits?_of_isDigit hne hdigits

theorem ofDigits_append (whole fraction : List Char) :
    ofDigits (whole ++ fraction) = ofDigits whole * 10 ^ fraction.length + ofDigits fraction := by
  rw [ofDigits_eq, ofDigits_eq, ofDigits_eq, Nat.ofDigitChars_append,
    Nat.ofDigitChars_eq_ofDigitChars_zero, Nat.mul_comm]

/-! ## Exponents -/

theorem takePower?_eq_some_iff {cs : List Char} {e : Int} :
    takePower? cs = some (e, []) ↔ Power cs e := by
  constructor
  · intro h
    rcases takePower?_cases h with ⟨rfl, rfl, -⟩ | ⟨_, _, _, _, rfl, hletter, hsign, hne, hds, rfl⟩
    · exact .absent
    · rw [List.append_nil]
      exact .written hletter hsign hne (digits_ten_iff.mpr ⟨hds, rfl⟩)
  · intro h
    cases h with
    | absent => rfl
    | @written letter sign ds negative n hletter hsign hne hds =>
      obtain ⟨hdigits, rfl⟩ := digits_ten_iff.mp hds
      exact takePower?_of_letter hletter hsign hne hdigits

theorem Power.eq_nil_or_cons {power : List Char} {e : Int} (h : Power power e) :
    power = [] ∧ e = 0 ∨ ∃ letter rest, power = letter :: rest ∧ (letter = 'e' ∨ letter = 'E') := by
  cases h with
  | absent => exact .inl ⟨rfl, rfl⟩
  | written hletter => exact .inr ⟨_, _, rfl, hletter⟩

/-! ## What the readers accept -/

theorem integerOfText?_eq_some_iff {cs : List Char} {i : Int} :
    integerOfText? cs = some i ↔ ∃ negative n, IntegerForm cs negative n ∧ i = withSign negative n := by
  constructor
  · intro h
    obtain ⟨negative, ds, hsign⟩ : ∃ negative ds, takeSign cs = (negative, ds) := ⟨_, _, rfl⟩
    simp only [integerOfText?, hsign] at h
    obtain ⟨j, hj, rfl⟩ := Option.map_eq_some_iff.mp h
    obtain ⟨n, hn, hcast⟩ := Option.bind_eq_some_iff.mp hj
    obtain rfl := Option.some.inj hcast
    obtain ⟨sign, hs, rfl⟩ := exists_sign hsign
    obtain ⟨hne, hds⟩ := (natOfDigits?_eq_some_iff (by decide)).mp hn
    exact ⟨negative, n, .mk hs hne hds, rfl⟩
  · rintro ⟨negative, n, ⟨hs, hne, hds⟩, rfl⟩
    have hread := (natOfDigits?_eq_some_iff (by decide)).mpr ⟨hne, hds⟩
    have htakeSign := hs.takeSign_whole hne (digits_ten_iff.mp hds).1 []
    rw [List.append_nil] at htakeSign
    simp only [integerOfText?, htakeSign, hread]
    rfl

theorem radixLiteral?_eq_some_iff {cs ds : List Char} {radix : Nat} :
    radixLiteral? cs = some (radix, ds) ↔ ∃ mark, cs = '0' :: mark :: ds ∧ RadixMark mark radix := by
  constructor
  · intro h
    unfold radixLiteral? at h
    split at h
    · next mark digits =>
      simp only [Bool.or_eq_true, decide_eq_true_eq] at h
      split_ifs at h with hx ho hb <;> obtain ⟨rfl, rfl⟩ := Prod.mk.inj (Option.some.inj h)
      · exact ⟨mark, rfl, .hexadecimal hx⟩
      · exact ⟨mark, rfl, .octal ho⟩
      · exact ⟨mark, rfl, .binary hb⟩
    · cases h
  · rintro ⟨mark, rfl, hmark⟩
    cases hmark with
    | hexadecimal h | octal h | binary h => rcases h with rfl | rfl <;> rfl

/-- A radix mark is no digit, no point and no letter of an exponent. -/
theorem RadixMark.ne {mark : Char} {radix : Nat} (h : RadixMark mark radix) :
    mark.isDigit = false ∧ mark ≠ '.' ∧ mark ≠ 'e' ∧ mark ≠ 'E' := by
  cases h with
  | hexadecimal h | octal h | binary h => rcases h with rfl | rfl <;> decide

theorem RadixMark.le {mark : Char} {radix : Nat} (h : RadixMark mark radix) : radix ≤ 16 := by
  cases h <;> decide

theorem RadixMark.integerOfText? {mark : Char} {radix : Nat} (h : RadixMark mark radix) (ds : List Char) :
    integerOfText? ('0' :: mark :: ds) = none := by
  have hsign : takeSign ('0' :: mark :: ds) = (false, '0' :: mark :: ds) := rfl
  have hnone : natOfDigits? 10 ('0' :: mark :: ds) = none :=
    natOfDigits?_eq_none (c := mark) (by simp) h.ne.1
  simp only [Sift.integerOfText?, hsign, hnone]
  rfl

/-- Behind the zero a numeral goes on with other characters than a radix mark. -/
theorem radixLiteral?_of_parse? {cs : List Char} {x : Numeral} (h : parse? cs = some x) :
    radixLiteral? cs = none := by
  by_contra hno
  obtain ⟨⟨radix, ds⟩, hsome⟩ := Option.ne_none_iff_exists'.mp hno
  obtain ⟨mark, rfl, hmark⟩ := radixLiteral?_eq_some_iff.mp hsome
  obtain ⟨hdigit, hpoint, he, hE⟩ := hmark.ne
  have hsign : takeSign ('0' :: mark :: ds) = (false, '0' :: mark :: ds) := rfl
  have htake : takeDigits ('0' :: mark :: ds) = (['0'], mark :: ds) :=
    takeDigits_append (List.forall_mem_singleton.mpr rfl) fun c hc => Option.some.inj hc ▸ hdigit
  simp [parse?, hsign, htake, hpoint, takePower?, he, hE] at h

/-- The value of the digits on both sides of the point, moved by the exponent. -/
theorem value_ofParts (negative : Bool) (whole fraction : List Char) (e : Int) :
    ((ofParts negative whole fraction e).mantissa * 10 ^ (ofParts negative whole fraction e).exponent : ℚ) =
      (ofDigits whole + ofDigits fraction / 10 ^ fraction.length) * 10 ^ e := by
  have hten : (10 : ℚ) ≠ 0 := by norm_num
  rw [ofParts, ofDigits_append, zpow_sub₀ hten, zpow_natCast]
  push_cast
  field_simp

theorem Power.head? {power : List Char} {e : Int} (h : Power power e) :
    ∀ c ∈ power.head?, c.isDigit = false ∧ c ≠ '.' := by
  cases h with
  | absent => exact fun c hc => absurd hc (by simp)
  | written hletter =>
    intro c hc
    obtain rfl := Option.some.inj hc
    rcases hletter with rfl | rfl <;> decide

variable {sign whole fraction power : List Char} {negative : Bool} {e : Int}

theorem Sign.takeSign_pointed (hsign : Sign sign negative) (hwhole : ∀ c ∈ whole, c.isDigit = true)
    (tail : List Char) : takeSign (sign ++ (whole ++ '.' :: tail)) = (negative, whole ++ '.' :: tail) := by
  by_cases hne : whole = []
  · subst hne
    refine hsign.takeSign_append fun c hc => ?_
    obtain rfl := Option.some.inj hc
    decide
  · exact hsign.takeSign_whole hne hwhole _

theorem parse?_pointed (hsign : Sign sign negative) (hwhole : ∀ c ∈ whole, c.isDigit = true)
    (hfraction : ∀ c ∈ fraction, c.isDigit = true) (hne : whole ≠ [] ∨ fraction ≠ [])
    (hpower : Power power e) :
    parse? (sign ++ (whole ++ '.' :: (fraction ++ power))) =
      some (ofParts negative whole fraction e) := by
  have htake : takeDigits (whole ++ '.' :: (fraction ++ power)) = (whole, '.' :: (fraction ++ power)) :=
    takeDigits_append hwhole fun c hc => Option.some.inj hc ▸ rfl
  have htakeFraction : takeDigits (fraction ++ power) = (fraction, power) :=
    takeDigits_append hfraction fun c hc => (hpower.head? c hc).1
  have hnotEmpty : (whole.isEmpty && fraction.isEmpty) = false := by
    rcases hne with h | h <;> simp [h]
  have htakeSign := hsign.takeSign_pointed hwhole (fraction ++ power)
  simp only [parse?, htakeSign, htake, htakeFraction, hnotEmpty, takePower?_eq_some_iff.mpr hpower,
    Bool.false_eq_true, if_false]

theorem parse?_scaled (hsign : Sign sign negative) (hwhole : ∀ c ∈ whole, c.isDigit = true)
    (hne : whole ≠ []) (hpower : Power power e) :
    parse? (sign ++ (whole ++ power)) = some (ofParts negative whole [] e) := by
  have htake : takeDigits (whole ++ power) = (whole, power) :=
    takeDigits_append hwhole fun c hc => (hpower.head? c hc).1
  have htakeSign := hsign.takeSign_whole hne hwhole power
  have hread := takePower?_eq_some_iff.mpr hpower
  simp only [parse?, htakeSign, htake]
  rcases hpower.eq_nil_or_cons with ⟨rfl, rfl⟩ | ⟨letter, rest, rfl, rfl | rfl⟩ <;> simp [hne, hread]

theorem power_of_parse? {after : List Char} {x : Numeral}
    (h : (if whole.isEmpty && fraction.isEmpty then none
      else match takePower? after with
        | some (power, []) => some (ofParts negative whole fraction power)
        | _ => none) = some x) :
    (whole ≠ [] ∨ fraction ≠ []) ∧ ∃ e, Power after e ∧ x = ofParts negative whole fraction e := by
  obtain ⟨hne, h⟩ := Option.ite_none_left_eq_some.mp h
  split at h
  · next e hpower =>
    refine ⟨?_, e, takePower?_eq_some_iff.mp hpower, (Option.some.inj h).symm⟩
    simpa [Decidable.imp_iff_not_or] using hne
  · cases h

theorem value_ofParts_nil (negative : Bool) (whole : List Char) (e : Int) :
    ((ofParts negative whole [] e).mantissa * 10 ^ (ofParts negative whole [] e).exponent : ℚ) =
      ofDigits whole * 10 ^ e := by
  have hempty : ofDigits [] = 0 := rfl
  rw [value_ofParts, hempty]
  simp

/-- Whatever is read is an integer or a decimal of this value. -/
theorem forms_of_parse? {cs : List Char} {x : Numeral} (h : parse? cs = some x) :
    (IntegerForm cs x.negative x.mantissa ∧ x.exponent = 0) ∨
      DecimalForm cs x.negative (x.mantissa * 10 ^ x.exponent) := by
  obtain ⟨negative, rest, htakeSign⟩ : ∃ negative rest, takeSign cs = (negative, rest) := ⟨_, _, rfl⟩
  obtain ⟨whole, tail, htake⟩ : ∃ whole tail, takeDigits rest = (whole, tail) := ⟨_, _, rfl⟩
  simp only [parse?, htakeSign, htake] at h
  obtain ⟨sign, hsign, rfl⟩ := exists_sign htakeSign
  obtain ⟨rfl, hdigits, -⟩ := takeDigits_eq htake
  have hwhole := digits_ten_iff.mpr ⟨hdigits, rfl⟩
  split at h
  · next behind =>
    obtain ⟨fraction, after, htakeFraction⟩ : ∃ fraction after, takeDigits behind = (fraction, after) :=
      ⟨_, _, rfl⟩
    rw [htakeFraction] at h
    obtain ⟨hne, e, hpower, rfl⟩ := power_of_parse? h
    obtain ⟨rfl, hdigits, -⟩ := takeDigits_eq htakeFraction
    have hfraction := digits_ten_iff.mpr ⟨hdigits, rfl⟩
    rw [value_ofParts]
    exact .inr (.pointed hsign hwhole hfraction hne hpower)
  · obtain ⟨hne, e, hpower, rfl⟩ := power_of_parse? h
    have hwholeNe : whole ≠ [] := hne.resolve_right fun hnil => hnil rfl
    rcases hpower.eq_nil_or_cons with ⟨rfl, rfl⟩ | ⟨letter, rest, rfl, -⟩
    · refine .inl ⟨?_, rfl⟩
      rw [List.append_nil, ofParts, List.append_nil]
      exact .mk hsign hwholeNe hwhole
    · rw [value_ofParts_nil]
      exact .inr (.scaled hsign hwhole hwholeNe hpower (List.cons_ne_nil _ _))

theorem IntegerForm.parse? {cs : List Char} {n : Nat} (h : IntegerForm cs negative n) :
    parse? cs = some ⟨negative, n, 0⟩ := by
  obtain ⟨hsign, hne, hds⟩ := h
  obtain ⟨hdigits, rfl⟩ := digits_ten_iff.mp hds
  have hread := parse?_scaled hsign hdigits hne .absent
  rwa [List.append_nil, ofParts, List.append_nil] at hread

theorem DecimalForm.exists_parse? {cs : List Char} {q : ℚ} (h : DecimalForm cs negative q) :
    ∃ m e, parse? cs = some ⟨negative, m, e⟩ ∧ q = m * 10 ^ e := by
  cases h with
  | pointed hsign hwhole hfraction hne hpower =>
    obtain ⟨hwholeDigits, rfl⟩ := digits_ten_iff.mp hwhole
    obtain ⟨hfractionDigits, rfl⟩ := digits_ten_iff.mp hfraction
    exact ⟨_, _, parse?_pointed hsign hwholeDigits hfractionDigits hne hpower,
      (value_ofParts negative _ _ _).symm⟩
  | scaled hsign hwhole hne hpower =>
    obtain ⟨hdigits, rfl⟩ := digits_ten_iff.mp hwhole
    exact ⟨_, _, parse?_scaled hsign hdigits hne hpower, (value_ofParts_nil negative _ _).symm⟩

/-- A decimal has a point or the letter of an exponent, so that it is no integer. -/
theorem DecimalForm.integerOfText? {cs : List Char} {q : ℚ} (h : DecimalForm cs negative q) :
    Sift.integerOfText? cs = none := by
  cases h with
  | @pointed sign whole fraction power _ w f e hsign hwhole hfraction hne hpower =>
    have htakeSign := hsign.takeSign_pointed (digits_ten_iff.mp hwhole).1 (fraction ++ power)
    have hnone : natOfDigits? 10 (whole ++ '.' :: (fraction ++ power)) = none :=
      natOfDigits?_eq_none (c := '.') (by simp) rfl
    simp only [Sift.integerOfText?, htakeSign, hnone]
    rfl
  | @scaled sign whole power _ w e hsign hwhole hne hpower hwritten =>
    have htakeSign := hsign.takeSign_whole hne (digits_ten_iff.mp hwhole).1 power
    obtain ⟨letter, rest, rfl⟩ := List.exists_cons_of_ne_nil hwritten
    have hletter : letter.isDigit = false := (hpower.head? letter rfl).1
    have hnone : natOfDigits? 10 (whole ++ letter :: rest) = none :=
      natOfDigits?_eq_none (c := letter) (by simp) hletter
    simp only [Sift.integerOfText?, htakeSign, hnone]
    rfl

end Sift.Numeral
