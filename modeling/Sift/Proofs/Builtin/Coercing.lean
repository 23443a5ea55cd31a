import Sift.Proofs.Builtin.Ordering
import Sift.Proofs.Json.Equality

/-! # Coercing equality

Of two scalars that are not null, coercing equality is what the order of the two says, also where it is
defined as strict equality: equal texts and equal truth values are those that no order separates. Null is no
such scalar. It has the order of zero, but equals only itself, and an array or an object equals only a value
of its own type. Coercing equality is not transitive, since two texts are never coerced.
-/
namespace Sift

namespace Json
variable {a b : Json}

theorem order?_eq_symm (a b : Json) : (order? (some a) b == some .eq) = (order? (some b) a == some .eq) := by
  rw [order?_swap, swap_beq_eq]

theorem looseEq_of_kind_eq (h : a.kind = b.kind) : looseEq (some a) b = a.strictEq b := by
  rw [looseEq, if_pos (beq_iff_eq.mpr h)]

theorem looseEq_symm (ha : a.IsCanonical) (hb : b.IsCanonical) :
    looseEq (some a) b = looseEq (some b) a := by
  simp only [looseEq]
  rw [strictEq_symm ha hb, order?_eq_symm a b, BEq.comm, Bool.or_comm (a.kind == .null),
    Bool.or_comm a.isContainer]

/-! ## Scalars -/

theorem kind_eq_null_iff {v : Json} : v.kind = .null ↔ v = .null := by
  cases v <;> simp [kind]

/-- Numbers, texts and truth values. -/
def IsCoercible (v : Json) : Prop := v ≠ .null ∧ v.isContainer = false

theorem strictEq_eq_order? (ha : a.IsCoercible) (h : a.kind = b.kind) :
    a.strictEq b = (order? (some a) b == some .eq) := by
  obtain ⟨hnull, hcontainer⟩ := ha
  cases a with
  | null => exact absurd rfl hnull
  | bool p =>
    cases b with
    | bool q => cases p <;> cases q <;> rfl
    | _ => cases h
  | number m =>
    cases b with
    | number n =>
      rw [strictEq, order?_of_not_strings (by simp)]
      rfl
    | _ => cases h
  | string s =>
    cases b with
    | string t =>
      rw [strictEq, Bool.eq_iff_iff, beq_iff_eq, beq_iff_eq]
      exact ⟨fun heq => congrArg some (Std.compare_eq_iff_eq.mpr heq),
        fun heq => Std.compare_eq_iff_eq.mp (Option.some.inj heq)⟩
    | _ => cases h
  | array _ | object _ => cases hcontainer

/-- Coercing equality of scalars is equality in their order, whether they have one type or two. -/
theorem looseEq_eq_order? (ha : a.IsCoercible) (hb : b.IsCoercible) :
    looseEq (some a) b = (order? (some a) b == some .eq) := by
  by_cases hkind : a.kind = b.kind
  · rw [looseEq_of_kind_eq hkind, strictEq_eq_order? ha hkind]
  · have hnull : ∀ {v : Json}, v.IsCoercible → (v.kind == .null) = false := fun hv =>
      beq_eq_false_iff_ne.mpr fun h => hv.1 (kind_eq_null_iff.mp h)
    simp only [looseEq, beq_eq_false_iff_ne.mpr hkind, hnull ha, hnull hb, ha.2, hb.2, Bool.or_self]
    rfl

/-- Across types all others are different. -/
theorem looseEq_of_kind_ne (hkind : a.kind ≠ b.kind) (h : ¬ (a.IsCoercible ∧ b.IsCoercible)) :
    looseEq (some a) b = false := by
  rw [looseEq, if_neg fun heq => hkind (beq_iff_eq.mp heq)]
  split_ifs with hnull hcontainer
  · rfl
  · rfl
  · rw [Bool.or_eq_true, not_or, beq_iff_eq, beq_iff_eq, kind_eq_null_iff, kind_eq_null_iff] at hnull
    rw [Bool.or_eq_true, not_or, Bool.not_eq_true, Bool.not_eq_true] at hcontainer
    exact absurd ⟨⟨hnull.1, hcontainer.1⟩, hnull.2, hcontainer.2⟩ h

end Json

namespace Builtin

theorem order?_eq_iff_between (a b : Json) :
    (Json.order? (some a) b == some .eq) = true ↔
      Op.lessThanOrEqual.test (some a) b = true ∧ Op.greaterThanOrEqual.test (some a) b = true := by
  simp only [Op.test]
  rcases Json.order? (some a) b with _ | o
  · decide
  · cases o <;> decide

/-- Coercing equality is reflexive and symmetric and follows from strict equality, which it is for values of
one type. Scalars other than null are equal if and only if each is less than or equal to the other. Null
equals only itself and a missing field, and an array or an object no value of another type. -/
theorem looseEq_coherent {a b : Json} (ha : a.IsCanonical) (hb : b.IsCanonical) :
    Json.looseEq (some a) a = true ∧
    Json.looseEq (some a) b = Json.looseEq (some b) a ∧
    (Json.fieldStrictEq (some a) b = true → Json.looseEq (some a) b = true) ∧
    (a.kind = b.kind → Json.looseEq (some a) b = Json.fieldStrictEq (some a) b) ∧
    (a ≠ .null → b ≠ .null → a.isContainer = false → b.isContainer = false →
      (Json.looseEq (some a) b = true ↔
        Op.lessThanOrEqual.test (some a) b = true ∧ Op.greaterThanOrEqual.test (some a) b = true)) ∧
    ((a = .null ↔ b ≠ .null) → Json.looseEq (some a) b = false) ∧
    (a.isContainer ≠ b.isContainer → Json.looseEq (some a) b = false) ∧
    (a.isContainer = true → b.isContainer = true → a.kind ≠ b.kind → Json.looseEq (some a) b = false) ∧
    (Json.looseEq none b = true ↔ b = .null) := by
  refine ⟨?_, Json.looseEq_symm ha hb, fun h => ?_, Json.looseEq_of_kind_eq, ?_, fun h => ?_, fun h => ?_,
    fun hcontainer _ hkind => ?_, ?_⟩
  · rw [Json.looseEq_of_kind_eq rfl]
    exact Json.strictEq_self ha
  · rw [Json.looseEq_of_kind_eq (Json.kind_eq_of_strictEq h)]
    exact h
  · intro hna hnb hsa hsb
    rw [Json.looseEq_eq_order? ⟨hna, hsa⟩ ⟨hnb, hsb⟩]
    exact order?_eq_iff_between a b
  · refine Json.looseEq_of_kind_ne (fun hkind => ?_) fun hboth => hboth.1.1 (h.mpr hboth.2.1)
    rw [← Json.kind_eq_null_iff, hkind, Json.kind_eq_null_iff] at h
    exact iff_not_self h
  · refine Json.looseEq_of_kind_ne (fun hkind => h ?_) fun hboth => h ?_
    · rw [Json.isContainer, Json.isContainer, hkind]
    · rw [hboth.1.2, hboth.2.2]
  · refine Json.looseEq_of_kind_ne hkind fun hboth => ?_
    rw [hboth.1.2] at hcontainer
    cases hcontainer
  · rw [Json.looseEq, beq_iff_eq, Json.kind_eq_null_iff]

/-- A literal with a radix mark equals a double and so does another text, but not each other. -/
theorem looseEq_coherent_radix :
    let a : Json := .string " 0x1A "
    let b : Json := .number (.float ⟨0x403A000000000000⟩)
    a.IsCanonical ∧ b.IsCanonical ∧ a ≠ .null ∧ b ≠ .null ∧ a.isContainer = false ∧ b.isContainer = false ∧
    Json.looseEq (some a) b = true ∧ Json.looseEq (some b) a = true ∧
    Op.lessThanOrEqual.test (some a) b = true ∧ Op.greaterThanOrEqual.test (some a) b = true ∧
    Json.looseEq (some b) (.string "26") = true ∧ Json.looseEq (some a) (.string "26") = false := by
  intro a b
  have ha : a.IsCanonical := trivial
  have hb : b.IsCanonical := show Number.IsJson (.float ⟨0x403A000000000000⟩) by decide
  have hequal : Json.looseEq (some a) b = true := by decide +kernel
  obtain ⟨-, hsymm, -, -, hbetween, -⟩ := looseEq_coherent ha hb
  obtain ⟨hle, hge⟩ := (hbetween (by simp [a]) (by simp [b]) rfl rfl).mp hequal
  exact ⟨ha, hb, by simp [a], by simp [b], rfl, rfl, hequal, hsymm ▸ hequal, hle, hge,
    by decide +kernel, by decide +kernel⟩

end Builtin
end Sift
