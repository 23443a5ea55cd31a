import Sift.Coercion
import Sift.Proofs.Decimal.Rounding
import Sift.Proofs.Text.Trim

/-! # Written numerals

A written numeral is a sign, digits before and behind the point and perhaps an exponent. Its parts are
found again in its text, which has no blank in it and no radix mark; and it denotes an integer if it has
neither a point nor an exponent.
-/
namespace Sift

theorem isBlank_of_isDigit {c : Char} (h : c.isDigit = true) : Text.isBlank c = false := by
  obtain ⟨hlow, hhigh⟩ := Bool.and_eq_true_iff.mp h
  have hl : 48 ≤ c.toNat := UInt32.le_iff_toNat_le.mp (of_decide_eq_true hlow)
  have hh : c.toNat ≤ 57 := UInt32.le_iff_toNat_le.mp (of_decide_eq_true hhigh)
  simp only [Text.isBlank, Bool.or_eq_false_iff, Bool.and_eq_false_iff, decide_eq_false_iff_not,
    beq_eq_false_iff_ne]
  omega

namespace Numeral

def signText (negative : Bool) : List Char := if negative then ['-'] else []

/-- A point and the digits behind it, if there are any. -/
def pointText : List Char → List Char
  | [] => []
  | ds => '.' :: ds

structure Written where
  negative : Bool
  whole : List Char
  fraction : List Char
  /-- The exponent with its letter, or nothing. -/
  power : List Char
  exponent : Int
  whole_ne_nil : whole ≠ []
  isDigit_whole : ∀ c ∈ whole, c.isDigit = true
  isDigit_fraction : ∀ c ∈ fraction, c.isDigit = true
  takePower?_power : takePower? power = some (exponent, [])

theorem takeDigits_append {ds rest : List Char} (hds : ∀ c ∈ ds, c.isDigit = true)
    (hrest : ∀ c ∈ rest.head?, c.isDigit = false) : takeDigits (ds ++ rest) = (ds, rest) := by
  have htake : rest.takeWhile Char.isDigit = [] ∧ rest.dropWhile Char.isDigit = rest := by
    cases rest with
    | nil => exact ⟨rfl, rfl⟩
    | cons c cs => simp [hrest c rfl]
  rw [takeDigits, List.takeWhile_append_of_pos hds, List.dropWhile_append_of_pos hds, htake.1, htake.2,
    List.append_nil]

/-- Of the digits at the front of a text nothing is lost. -/
theorem takeDigits_eq {cs ds rest : List Char} (h : takeDigits cs = (ds, rest)) :
    cs = ds ++ rest ∧ (∀ c ∈ ds, c.isDigit = true) ∧ ∀ c ∈ rest.head?, c.isDigit = false := by
  obtain ⟨rfl, rfl⟩ := Prod.mk.inj h
  refine ⟨List.takeWhile_append_dropWhile.symm, fun c hc => List.mem_takeWhile_imp hc, fun c hc => ?_⟩
  have hnot := List.head?_dropWhile_not Char.isDigit cs
  rw [Option.mem_def.mp hc] at hnot
  simpa using hnot

/-! ## Signs -/

/-- An optional sign, and whether it is a minus. -/
inductive Sign : List Char → Bool → Prop
  | absent : Sign [] false
  | plus : Sign ['+'] false
  | minus : Sign ['-'] true

def withSign (negative : Bool) (n : Nat) : Int := if negative then -(n : Int) else n

theorem withSign_natAbs (i : Int) : withSign (i < 0) i.natAbs = i := by
  simp only [withSign, decide_eq_true_eq]
  split <;> omega

theorem ne_sign_of_isDigit {c : Char} (h : c.isDigit = true) : c ≠ '-' ∧ c ≠ '+' := by
  constructor <;> rintro rfl <;> cases h

theorem sign_signText (negative : Bool) : Sign (signText negative) negative := by
  cases negative
  · exact .absent
  · exact .minus

/-- What a sign is taken from is the sign and the rest. -/
theorem exists_sign {cs rest : List Char} {negative : Bool} (h : takeSign cs = (negative, rest)) :
    ∃ sign, Sign sign negative ∧ cs = sign ++ rest := by
  unfold takeSign at h
  split at h <;> obtain ⟨rfl, rfl⟩ := Prod.mk.inj h
  · exact ⟨['-'], .minus, rfl⟩
  · exact ⟨['+'], .plus, rfl⟩
  · exact ⟨[], .absent, rfl⟩

namespace Sign
variable {sign : List Char} {negative : Bool}

theorem isBlank_eq_false (h : Sign sign negative) : ∀ c ∈ sign, Text.isBlank c = false := by
  cases h with
  | absent => exact List.forall_mem_nil _
  | plus | minus => exact List.forall_mem_singleton.mpr rfl

theorem takeSign_append (h : Sign sign negative) {rest : List Char}
    (hrest : ∀ c ∈ rest.head?, c ≠ '-' ∧ c ≠ '+') : takeSign (sign ++ rest) = (negative, rest) := by
  cases h with
  | plus | minus => rfl
  | absent =>
    rw [List.nil_append]
    unfold takeSign
    split
    · exact absurd rfl (hrest '-' rfl).1
    · exact absurd rfl (hrest '+' rfl).2
    · rfl

theorem takeSign_whole (h : Sign sign negative) {whole : List Char} (hne : whole ≠ [])
    (hwhole : ∀ c ∈ whole, c.isDigit = true) (tail : List Char) :
    takeSign (sign ++ (whole ++ tail)) = (negative, whole ++ tail) := by
  obtain ⟨d, ds, rfl⟩ := List.exists_cons_of_ne_nil hne
  refine h.takeSign_append fun c hc => ?_
  obtain rfl := Option.some.inj hc
  exact ne_sign_of_isDigit (hwhole d List.mem_cons_self)

end Sign

/-! ## Exponents -/

theorem takePower?_nil : takePower? [] = some (0, []) := rfl

theorem takePower?_letter {letter : Char} {sign ds rest : List Char} {negative : Bool}
    (hletter : letter = 'e' ∨ letter = 'E') (hsign : Sign sign negative) (hne : ds ≠ [])
    (hds : ∀ c ∈ ds, c.isDigit = true) (hrest : ∀ c ∈ rest.head?, c.isDigit = false) :
    takePower? (letter :: (sign ++ (ds ++ rest))) = some (withSign negative (ofDigits ds), rest) := by
  have htake := takeDigits_append hds hrest
  have htakeSign := hsign.takeSign_whole hne hds rest
  obtain ⟨d, tail, rfl⟩ := List.exists_cons_of_ne_nil hne
  simp only [takePower?, hletter, htakeSign, htake, Bool.or_eq_true, decide_eq_true_eq, if_true]
  rfl

theorem takePower?_of_letter {letter : Char} {sign ds : List Char} {negative : Bool}
    (hletter : letter = 'e' ∨ letter = 'E') (hsign : Sign sign negative) (hne : ds ≠ [])
    (hds : ∀ c ∈ ds, c.isDigit = true) :
    takePower? (letter :: (sign ++ ds)) = some (withSign negative (ofDigits ds), []) := by
  have hend : ∀ c ∈ ([] : List Char).head?, c.isDigit = false := fun c hc => by cases hc
  have hread := takePower?_letter hletter hsign hne hds hend
  rwa [List.append_nil] at hread

/-- There is no exponent, or a letter with digits behind it. -/
theorem takePower?_cases {cs rest : List Char} {e : Int} (h : takePower? cs = some (e, rest)) :
    (cs = rest ∧ e = 0 ∧ ∀ c ∈ cs.head?, c ≠ 'e' ∧ c ≠ 'E') ∨
      ∃ letter sign negative ds, cs = letter :: (sign ++ (ds ++ rest)) ∧ (letter = 'e' ∨ letter = 'E') ∧
        Sign sign negative ∧ ds ≠ [] ∧ (∀ c ∈ ds, c.isDigit = true) ∧
        e = withSign negative (ofDigits ds) := by
  cases cs with
  | nil =>
    obtain ⟨rfl, rfl⟩ := Prod.mk.inj (Option.some.inj h)
    exact .inl ⟨rfl, rfl, fun c hc => by cases hc⟩
  | cons c cs =>
    by_cases hc : c = 'e' ∨ c = 'E'
    · obtain ⟨negative, tail, hs⟩ : ∃ negative tail, takeSign cs = (negative, tail) := ⟨_, _, rfl⟩
      obtain ⟨ds, after, hd⟩ : ∃ ds after, takeDigits tail = (ds, after) := ⟨_, _, rfl⟩
      cases ds with
      | nil => simp [takePower?, hc, hs, hd] at h
      | cons d ds =>
        simp only [takePower?, hc, hs, hd, Bool.or_eq_true, decide_eq_true_eq, if_true] at h
        obtain ⟨rfl, rfl⟩ := Prod.mk.inj (Option.some.inj h)
        obtain ⟨sign, hsign, rfl⟩ := exists_sign hs
        obtain ⟨rfl, hdigits, -⟩ := takeDigits_eq hd
        exact .inr ⟨c, sign, negative, d :: ds, rfl, hc, hsign, List.cons_ne_nil _ _, hdigits, rfl⟩
    · simp only [takePower?, hc, Bool.or_eq_true, decide_eq_true_eq, if_false] at h
      obtain ⟨rfl, rfl⟩ := Prod.mk.inj (Option.some.inj h)
      refine .inl ⟨rfl, rfl, fun d hd => ?_⟩
      obtain rfl : c = d := Option.some.inj hd
      exact not_or.mp hc

namespace Written
variable (w : Written)

def text : List Char := signText w.negative ++ (w.whole ++ (pointText w.fraction ++ w.power))

def numeral : Numeral := ofParts w.negative w.whole w.fraction w.exponent

/-- Neither a point nor an exponent. -/
def IsInteger : Prop := w.fraction = [] ∧ w.power = []

instance : Decidable w.IsInteger := inferInstanceAs (Decidable (_ ∧ _))

def integer : Int := if w.negative then -(ofDigits w.whole : Int) else ofDigits w.whole

theorem power_cases : w.power = [] ∨ ∃ c tail, w.power = c :: tail ∧ (c = 'e' ∨ c = 'E') ∧
    ∀ d ∈ tail, Text.isBlank d = false := by
  rcases takePower?_cases w.takePower?_power with ⟨h, -⟩ | ⟨c, sign, _, ds, h, hc, hsign, -, hds, -⟩
  · exact .inl h
  · refine .inr ⟨c, sign ++ ds, by rw [h, List.append_nil], hc, fun d hd => ?_⟩
    rcases List.mem_append.mp hd with hd | hd
    · exact hsign.isBlank_eq_false d hd
    · exact isBlank_of_isDigit (hds d hd)

/-- What follows the whole part begins with a point or a letter. -/
theorem head?_tail : ∀ c ∈ (pointText w.fraction ++ w.power).head?, c = '.' ∨ c = 'e' ∨ c = 'E' := by
  intro c hc
  cases hf : w.fraction with
  | cons d ds =>
    rw [hf] at hc
    exact .inl (Option.some.inj hc).symm
  | nil =>
    rw [hf] at hc
    rcases w.power_cases with h | ⟨d, tail, h, hd, -⟩
    · rw [h] at hc
      cases hc
    · rw [h] at hc
      obtain rfl : d = c := Option.some.inj hc
      exact .inr hd

theorem takeDigits_whole :
    takeDigits (w.whole ++ (pointText w.fraction ++ w.power)) =
      (w.whole, pointText w.fraction ++ w.power) := by
  refine takeDigits_append w.isDigit_whole fun c hc => ?_
  rcases w.head?_tail c hc with rfl | rfl | rfl <;> rfl

theorem takeDigits_fraction : takeDigits (w.fraction ++ w.power) = (w.fraction, w.power) := by
  refine takeDigits_append w.isDigit_fraction fun c hc => ?_
  rcases w.power_cases with h | ⟨d, tail, h, hd, -⟩
  · rw [h] at hc
    cases hc
  · rw [h] at hc
    obtain rfl : d = c := Option.some.inj hc
    rcases hd with rfl | rfl <;> rfl

theorem exists_whole : ∃ d ds, w.whole = d :: ds ∧ d.isDigit = true := by
  obtain ⟨d, ds, h⟩ := List.exists_cons_of_ne_nil w.whole_ne_nil
  exact ⟨d, ds, h, w.isDigit_whole d (by rw [h]; exact List.mem_cons_self)⟩

theorem takeSign_text :
    takeSign w.text = (w.negative, w.whole ++ (pointText w.fraction ++ w.power)) :=
  (sign_signText w.negative).takeSign_whole w.whole_ne_nil w.isDigit_whole _

/-- The text reads as the numeral of its parts. -/
theorem parse?_text : parse? w.text = some w.numeral := by
  have hne := w.whole_ne_nil
  have hpower := w.takePower?_power
  have hfraction := w.takeDigits_fraction
  simp only [parse?, w.takeSign_text, w.takeDigits_whole, numeral]
  cases hf : w.fraction with
  | cons d ds =>
    rw [hf, List.cons_append] at hfraction
    simp only [pointText, List.cons_append, hfraction, hpower, List.isEmpty_cons, Bool.and_false,
      Bool.false_eq_true, if_false]
  | nil =>
    rcases w.power_cases with h | ⟨c, tail, h, rfl | rfl, -⟩ <;> rw [h] at hpower <;>
      simp [pointText, h, hpower, hne]

theorem isBlank_of_mem_text : ∀ c ∈ w.text, Text.isBlank c = false := by
  intro c hc
  simp only [text, List.mem_append] at hc
  rcases hc with hc | hc | hc | hc
  · exact (sign_signText w.negative).isBlank_eq_false c hc
  · exact isBlank_of_isDigit (w.isDigit_whole c hc)
  · cases hf : w.fraction with
    | nil =>
      rw [hf] at hc
      cases hc
    | cons d ds =>
      rw [hf] at hc
      rcases List.mem_cons.mp hc with rfl | hc
      · rfl
      · exact isBlank_of_isDigit (w.isDigit_fraction c (hf ▸ hc))
  · rcases w.power_cases with h | ⟨d, tail, h, hd, htail⟩
    · rw [h] at hc
      cases hc
    · rw [h] at hc
      rcases List.mem_cons.mp hc with rfl | hc
      · rcases hd with rfl | rfl <;> rfl
      · exact htail c hc

theorem text_ne_nil : w.text ≠ [] := by
  simp [text, w.whole_ne_nil]

theorem exists_tail (h : ¬ w.IsInteger) :
    ∃ c tail, pointText w.fraction ++ w.power = c :: tail ∧ (c = '.' ∨ c = 'e' ∨ c = 'E') := by
  have hne : pointText w.fraction ++ w.power ≠ [] := by
    intro hnil
    obtain ⟨hpoint, hpower⟩ := List.append_eq_nil_iff.mp hnil
    refine h ⟨?_, hpower⟩
    cases hf : w.fraction with
    | nil => rfl
    | cons d ds =>
      rw [hf] at hpoint
      cases hpoint
  obtain ⟨c, tail, hc⟩ := List.exists_cons_of_ne_nil hne
  exact ⟨c, tail, hc, w.head?_tail c (by rw [hc]; rfl)⟩

/-- Only a text without point and exponent is an integer's. -/
theorem integerOfText?_text : integerOfText? w.text = if w.IsInteger then some w.integer else none := by
  simp only [integerOfText?, w.takeSign_text]
  by_cases h : w.IsInteger
  · rw [if_pos h, h.1, h.2, pointText, List.append_nil, List.append_nil,
      natOfDigits?_of_isDigit w.whole_ne_nil w.isDigit_whole]
    rfl
  · obtain ⟨c, tail, hc, hletter⟩ := w.exists_tail h
    have hnone : c.isDigit = false := by
      rcases hletter with rfl | rfl | rfl <;> rfl
    rw [if_neg h, natOfDigits?_eq_none (c := c) (by simp [hc]) hnone]
    rfl

/-- The second character is a digit, a point or a letter that is no radix mark. -/
theorem radixLiteral?_text : radixLiteral? w.text = none := by
  obtain ⟨d, ds, hw, hd⟩ := w.exists_whole
  have hsecond : ∀ c ∈ (ds ++ (pointText w.fraction ++ w.power)).head?,
      c.isDigit = true ∨ c = '.' ∨ c = 'e' ∨ c = 'E' := by
    intro c hc
    cases ds with
    | nil => exact .inr (w.head?_tail c hc)
    | cons b bs =>
      obtain rfl : b = c := Option.some.inj hc
      exact .inl (w.isDigit_whole b (by simp [hw]))
  unfold text
  rw [hw]
  cases w.negative with
  | true => rfl
  | false =>
    change radixLiteral? (d :: (ds ++ (pointText w.fraction ++ w.power))) = none
    unfold radixLiteral?
    split
    · next mark rest h =>
      obtain ⟨rfl, htail⟩ := List.cons.inj h
      rw [htail] at hsecond
      have hmark := hsecond mark rfl
      have hnot : ∀ c, c.isDigit = false → c ≠ '.' → c ≠ 'e' → c ≠ 'E' → mark ≠ c := by
        rintro c hdigit hpoint he hE rfl
        rcases hmark with h | h | h | h
        · rw [h] at hdigit
          cases hdigit
        · exact hpoint h
        · exact he h
        · exact hE h
      simp [hnot 'x', hnot 'X', hnot 'o', hnot 'O', hnot 'b', hnot 'B']
    · rfl

end Written

end Numeral
end Sift
