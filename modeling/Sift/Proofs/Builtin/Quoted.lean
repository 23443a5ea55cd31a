import Sift.Pattern.Words
import Sift.Proofs.Builtin.Ordering
import Sift.Proofs.Json.Literal
import Sift.Proofs.Number.Value

/-! # Quoted numbers

A number literal of JSON means the same with and without quotes, as long as the field is no text: the
literal's text reads as the number that the literal denotes. Minus zero reads as the integer zero, which
takes its place in every comparison.
-/
namespace Sift

namespace Json
open Numeral

theorem compare?_minusZero (r : Number) : r.compare? minusZero = r.compare? (.signed 0) := by
  have hlimit : (0 : Int).natAbs < Binary64.exactLimit := by decide
  have hvalue : (⟨0x8000000000000000⟩ : Binary64).scaled = 0 * (Binary64.unitsPerOne : Int) := by
    rw [Int.zero_mul]
    decide
  exact Number.compare?_right_of_integer rfl hlimit (by decide) hvalue r

theorem number_of_text_minusZero {w : Written} (h : w.text = ['-', '0']) : w.number = .signed 0 := by
  have hread := w.ofTrimmed?_text
  rw [h] at hread
  exact Option.some.inj (hread.symm.trans (by decide))

/-- The text of a literal reads as a number that takes the place of the literal's in every comparison. -/
theorem exists_reading {text : String} {n : Number} (h : parse? text = some (.number n)) :
    ∃ m, (Json.string text).toNumber? = some m ∧ m.isNaN = false ∧
      (∀ r : Number, r.compare? n = r.compare? m) ∧ (Text.trim text ≠ "-0" → n = m) := by
  obtain ⟨w, hw, hn⟩ := parse?_eq_number h
  refine ⟨w.number, w.ofText?_of_trimChars_eq hw, w.isNaN_number, ?_, fun htext => ?_⟩
  · rcases hn with rfl | ⟨rfl, hminus⟩
    · exact fun r => rfl
    · rw [number_of_text_minusZero hminus]
      exact compare?_minusZero
  · rcases hn with rfl | ⟨-, hminus⟩
    · rfl
    · refine absurd ?_ htext
      rw [Text.trim, hw, hminus]

/-- Against a field that is no text, a number has the order of a text that reads like it. -/
theorem order?_number_eq_string {field : Option Json} {n m : Number} {text : String}
    (hread : (string text).toNumber? = some m) (hsame : ∀ r : Number, r.compare? n = r.compare? m)
    (hfield : ∀ s, field ≠ some (.string s)) : order? field (.number n) = order? field (.string text) := by
  cases field with
  | none => rfl
  | some x =>
    have hnumber : ¬ ∃ a b, x = .string a ∧ Json.number n = .string b := by simp
    have hstring : ¬ ∃ a b, x = .string a ∧ Json.string text = .string b := by
      rintro ⟨a, -, rfl, -⟩
      exact hfield a rfl
    rw [order?_of_not_strings hnumber, order?_of_not_strings hstring, numericOrder?, numericOrder?, hread]
    cases x.toNumber? with
    | none => rfl
    | some r => exact hsame r

theorem looseEq_number_eq_string {field : Option Json} {n m : Number} {text : String}
    (hread : (string text).toNumber? = some m) (hsame : ∀ r : Number, r.compare? n = r.compare? m)
    (hfield : ∀ s, field ≠ some (.string s)) : looseEq field (.number n) = looseEq field (.string text) := by
  have horder := order?_number_eq_string hread hsame hfield
  cases field with
  | none => rfl
  | some x =>
    cases x with
    | null | array _ | object _ => rfl
    | string s => exact absurd rfl (hfield s)
    | bool b => exact congrArg (· == some .eq) horder
    | number r => exact congrArg (· == some .eq) horder

end Json

namespace Builtin
variable {L : PatternLanguage} {σ : Type}

/-- The operators that compare by value: the ordering ones and coercing equality. -/
def Op.ComparesValues (op : Op) : Prop := op.IsOrdering ∨ op = .equal

/-- Under a name that the registry holds, the outcome is the operator's test on the candidate, or its
negation. -/
theorem evaluate_one (slot : CacheSlot L σ) {op : Op} (hop : op ≠ .matches) {text : String}
    (h : (registry slot).lookup? (OperatorName.parse text).name = some (op.predicate slot))
    (field : Option Json) (value : Json) :
    evaluate (registry slot) field (.named text) (.one value) =
      pure (op.test field value != (OperatorName.parse text).negated) := by
  have hcandidate : anyCandidate (op.predicate slot) field [value] = pure (op.test field value) :=
    (anyCandidate_singleton _ _ _).trans (call_predicate slot hop field value)
  simp only [evaluate, h, ConditionValue.candidates, hcandidate, pure_bind]

/-- A number literal and its text read as equal numbers, which are the same number unless the literal is
minus zero. So on a field that is no text the operators that compare by value, under any of their names and
negated or not, answer alike for both. -/
theorem quoted_number_same (slot : CacheSlot L σ) {text : String} {n : Number}
    (h : Json.parse? text = some (.number n)) :
    ∃ r m, (Json.number n).toNumber? = some r ∧ (Json.string text).toNumber? = some m ∧
      r.compare? m = some .eq ∧ (Text.trim text ≠ "-0" → r = m) ∧
      ∀ field, (∀ s, field ≠ some (.string s)) → ∀ op : Op, op.ComparesValues →
        op.test field (.number n) = op.test field (.string text) ∧
        ∀ name, (registry slot).lookup? (OperatorName.parse name).name = some (op.predicate slot) →
          evaluate (registry slot) field (.named name) (.one (.number n)) =
            evaluate (registry slot) field (.named name) (.one (.string text)) := by
  obtain ⟨m, hread, hnan, hsame, hunless⟩ := Json.exists_reading h
  have hequal : n.compare? m = some .eq := by
    rw [Number.compare?_swap, hsame, Number.compare?_self hnan]
    rfl
  refine ⟨n, m, rfl, hread, hequal, hunless, fun field hfield op hop => ?_⟩
  have horder := Json.order?_number_eq_string hread hsame hfield
  have htest : op.test field (.number n) = op.test field (.string text) := by
    rcases hop with (rfl | rfl | rfl | rfl) | rfl
    · simp only [Op.test, horder]
    · simp only [Op.test, horder]
    · simp only [Op.test, horder]
    · simp only [Op.test, horder]
    · exact Json.looseEq_number_eq_string hread hsame hfield
  have hne : op ≠ .matches := by
    rintro rfl
    simp [Op.ComparesValues, Op.IsOrdering] at hop
  refine ⟨htest, fun name hname => ?_⟩
  rw [evaluate_one slot hne hname, evaluate_one slot hne hname, htest]

/-- Minus zero is one number without quotes and another one with them; `false` is at least either. -/
theorem quoted_number_same_minusZero :
    Json.parse? "-0" = some (.number Json.minusZero) ∧
    (Json.string "-0").toNumber? = some (.signed 0) ∧
    Json.minusZero.compare? (.signed 0) = some .eq ∧
    evaluate (registry (.whole .words)) (some (.bool false)) (.named "! <") (.one (.number Json.minusZero)) =
      evaluate (registry (.whole .words)) (some (.bool false)) (.named "! <") (.one (.string "-0")) := by
  have hread : Json.parse? "-0" = some (.number Json.minusZero) := rfl
  have hzero : (Json.string "-0").toNumber? = some (.signed 0) := by decide
  obtain ⟨r, m, hr, hm, hequal, -, hsame⟩ := quoted_number_same (.whole .words) hread
  obtain rfl : Json.minusZero = r := Option.some.inj hr
  obtain rfl : Number.signed 0 = m := Option.some.inj (hzero.symm.trans hm)
  have hfield : ∀ s, some (Json.bool false) ≠ some (.string s) := by simp
  have hname : (registry (.whole .words)).lookup? (OperatorName.parse "! <").name =
      some (Op.lessThan.predicate (.whole .words)) := by
    have hparse : (OperatorName.parse "! <").name = "<" := by decide
    rw [hparse]
    rfl
  exact ⟨hread, hzero, hequal, (hsame _ hfield .lessThan (.inl (.inr (.inr (.inl rfl))))).2 _ hname⟩

end Builtin
end Sift
