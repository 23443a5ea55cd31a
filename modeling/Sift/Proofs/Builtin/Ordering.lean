import Sift.Pattern.Words
import Sift.Proofs.Builtin.Naming
import Sift.Proofs.Number.Order

/-! # The ordering operators

A field and a value have an order if both are texts, or if both have a numeric reading. Then just one of
the strict operators and the pair of the others holds, and each operator is the negation of the strict one
that goes the other way; without an order none of the four holds. To swap the two values is to swap the
operators.
-/
namespace Sift

namespace Json

/-- Both are texts, or both have a numeric reading. -/
def Comparable (field : Option Json) (value : Json) : Prop :=
  (∃ a b, field = some (.string a) ∧ value = .string b) ∨
  (∃ m n, field.bind toNumber? = some m ∧ value.toNumber? = some n)

/-- The order of two values by their numeric readings. -/
def numericOrder? (x y : Json) : Option Ordering :=
  match x.toNumber?, y.toNumber? with
  | some m, some n => m.compare? n
  | _, _ => none

theorem numericOrder?_eq_some_iff {x y : Json} {o : Ordering} :
    numericOrder? x y = some o ↔ ∃ m n, x.toNumber? = some m ∧ y.toNumber? = some n ∧
      m.compare? n = some o := by
  unfold numericOrder?
  cases x.toNumber? <;> cases y.toNumber? <;> simp

theorem numericOrder?_swap (x y : Json) : numericOrder? x y = (numericOrder? y x).map Ordering.swap := by
  unfold numericOrder?
  cases x.toNumber? with
  | none => cases y.toNumber? <;> rfl
  | some m =>
    cases y.toNumber? with
    | none => rfl
    | some n => exact m.compare?_swap n

theorem order?_of_not_strings {x y : Json} (h : ¬ ∃ a b, x = .string a ∧ y = .string b) :
    order? (some x) y = numericOrder? x y := by
  cases x with
  | string a =>
    cases y with
    | string b => exact absurd ⟨a, b, rfl, rfl⟩ h
    | _ => rfl
  | _ => rfl

theorem order?_swap (x y : Json) : order? (some x) y = (order? (some y) x).map Ordering.swap := by
  by_cases h : ∃ a b, x = .string a ∧ y = .string b
  · obtain ⟨a, b, rfl, rfl⟩ := h
    exact congrArg some Std.OrientedOrd.eq_swap
  · have h' : ¬ ∃ a b, y = .string a ∧ x = .string b := fun ⟨a, b, hy, hx⟩ => h ⟨b, a, hx, hy⟩
    rw [order?_of_not_strings h, order?_of_not_strings h', numericOrder?_swap]

theorem comparable_of_order?_eq_some {field : Option Json} {value : Json} {o : Ordering}
    (h : order? field value = some o) : Comparable field value := by
  cases field with
  | none => cases h
  | some x =>
    by_cases hs : ∃ a b, x = .string a ∧ value = .string b
    · obtain ⟨a, b, rfl, rfl⟩ := hs
      exact .inl ⟨a, b, rfl, rfl⟩
    · rw [order?_of_not_strings hs] at h
      obtain ⟨m, n, hm, hn, -⟩ := numericOrder?_eq_some_iff.mp h
      exact .inr ⟨m, n, hm, hn⟩

theorem Comparable.exists_order? {field : Option Json} {value : Json} (h : Comparable field value)
    (hfield : ∀ x, field = some (.number (.float x)) → x.isFinite = true)
    (hvalue : ∀ x, value = .number (.float x) → x.isFinite = true) : ∃ o, order? field value = some o := by
  rcases h with ⟨a, b, rfl, rfl⟩ | ⟨m, n, hm, hn⟩
  · exact ⟨_, rfl⟩
  · obtain ⟨x, rfl, hx⟩ := Option.bind_eq_some_iff.mp hm
    by_cases hs : ∃ a b, x = .string a ∧ value = .string b
    · obtain ⟨a, b, rfl, rfl⟩ := hs
      exact ⟨_, rfl⟩
    · -- The readings have an order because neither is a not-a-number.
      have hm' : m.isNaN = false := isNaN_of_toNumber? (fun k hk => hfield k (hk ▸ rfl)) hx
      have hn' : n.isNaN = false := isNaN_of_toNumber? hvalue hn
      have hsome : m.compare? n ≠ none := by
        rw [ne_eq, Number.compare?_eq_none_iff, hm', hn']
        decide
      obtain ⟨o, ho⟩ := Option.ne_none_iff_exists'.mp hsome
      exact ⟨o, (order?_of_not_strings hs).trans (numericOrder?_eq_some_iff.mpr ⟨m, n, hx, hn, ho⟩)⟩

end Json

namespace Builtin
variable {L : PatternLanguage} {σ : Type}

/-- The operators that ask for the order of a field and a value. -/
def Op.IsOrdering (op : Op) : Prop :=
  op = .greaterThan ∨ op = .greaterThanOrEqual ∨ op = .lessThan ∨ op = .lessThanOrEqual

/-- The ordering operators, under any of their names, are tests on the field and the value. Of a field and
a value that have an order, exactly one strict operator or both other ones hold, and each operator is the
negation of one of the others; of any other field and value none of them holds. With the two values
swapped, what was less is greater. -/
theorem ordering_coherent (slot : CacheSlot L σ) {field : Option Json} {value : Json}
    (hfield : ∀ x, field = some (.number (.float x)) → x.isFinite = true)
    (hvalue : ∀ x, value = .number (.float x) → x.isFinite = true) :
    let gt := Op.greaterThan.test field value
    let ge := Op.greaterThanOrEqual.test field value
    let lt := Op.lessThan.test field value
    let le := Op.lessThanOrEqual.test field value
    (∀ name op, (name, op) ∈ allNames → op.IsOrdering →
      evaluate (registry slot) field (.named name) (.one value) = pure (op.test field value)) ∧
    (Json.Comparable field value → [gt, lt, ge && le].count true = 1 ∧ ge = !lt ∧ le = !gt) ∧
    (¬ Json.Comparable field value → gt = false ∧ ge = false ∧ lt = false ∧ le = false) ∧
    (∀ a b : Json, Op.lessThan.test (some a) b = Op.greaterThan.test (some b) a ∧
      Op.lessThanOrEqual.test (some a) b = Op.greaterThanOrEqual.test (some b) a) := by
  intro gt ge lt le
  refine ⟨?_, fun h => ?_, fun h => ?_, fun a b => ?_⟩
  · intro name op hname hop
    have hne : op ≠ .matches := by
      rintro rfl
      simp [Op.IsOrdering] at hop
    have hempty : Text.AllBlank "" := by decide
    have heval := evaluate_pad slot hname hne hempty hempty field value
    rwa [String.empty_append, String.append_empty] at heval
  · obtain ⟨o, ho⟩ := h.exists_order? hfield hvalue
    simp only [gt, ge, lt, le, Op.test, ho]
    cases o <;> decide
  · have hnone : Json.order? field value = none := by
      rw [Option.eq_none_iff_forall_ne_some]
      exact fun o ho => h (Json.comparable_of_order?_eq_some ho)
    simp [gt, ge, lt, le, Op.test, hnone]
  · simp only [Op.test]
    rw [Json.order?_swap a b]
    rcases Json.order? (some b) a with _ | o
    · decide
    · cases o <;> decide

/-- A numeral beyond the doubles reads as infinity, which is greater than the largest of them. -/
theorem ordering_coherent_overflow :
    let field : Option Json := some (.string " 1e400 ")
    let value : Json := .number (.float ⟨0x7FEFFFFFFFFFFFFF⟩)
    (∀ x, field = some (.number (.float x)) → x.isFinite = true) ∧
    (∀ x, value = .number (.float x) → x.isFinite = true) ∧
    Json.Comparable field value ∧
    evaluate (registry (.whole .words)) field (.named ">") (.one value) = pure true ∧
    evaluate (registry (.whole .words)) field (.named "less than or equal") (.one value) = pure false ∧
    Op.lessThan.test (some value) (.string " 1e400 ") = true := by
  intro field value
  have hfield : ∀ x, field = some (.number (.float x)) → x.isFinite = true := by
    intro x hx
    cases Option.some.inj hx
  have hvalue : ∀ x, value = .number (.float x) → x.isFinite = true := by
    intro x hx
    obtain rfl := Number.float.inj (Json.number.inj hx)
    decide
  have hreading : (Json.string " 1e400 ").toNumber? = some (.float ⟨0x7FF0000000000000⟩) := by
    decide +kernel
  have hcomparable : Json.Comparable field value := .inr ⟨_, _, hreading, rfl⟩
  have hgt : Op.greaterThan.test field value = true := by decide +kernel
  obtain ⟨heval, hordered, -, hswap⟩ := ordering_coherent (.whole .words) hfield hvalue
  obtain ⟨-, -, hle⟩ := hordered hcomparable
  refine ⟨hfield, hvalue, hcomparable, ?_, ?_, ?_⟩
  · rw [heval ">" .greaterThan (by decide) (.inl rfl), hgt]
  · rw [heval "less than or equal" .lessThanOrEqual (by decide) (.inr (.inr (.inr rfl))), hle, hgt]
    rfl
  · exact (hswap value (.string " 1e400 ")).1.trans hgt

end Builtin
end Sift
