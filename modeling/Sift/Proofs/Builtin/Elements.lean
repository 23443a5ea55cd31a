import Sift.Pattern.Words
import Sift.Proofs.Builtin.Naming
import Sift.Proofs.Path.Derived

/-! # Members and elements

An array has a value exactly if one of its elements, read at its index, is strictly equal to the value. At
an index behind the last element there is no field, and nothing equals that.
-/
namespace Sift

namespace Json

theorem value?_member_toDigits (xs : List Json) (i : Nat) :
    (Path.member (.array xs) (Nat.toDigits 10 i)).value? = xs[i]? := by
  have hindex : Path.index? (Nat.toDigits 10 i) = some i := Path.index?_eq_some_iff.mpr rfl
  cases hx : xs[i]? <;> simp [Path.member, Path.toDigits_ne_lengthSegment i, hindex, hx]

/-- An index behind the path to an array leads to the element there. -/
theorem value?_resolve_element {record : Json} {p : String} (hp : p ≠ "") {xs : List Json}
    (h : (record.resolve p).value? = some (.array xs)) (i : Nat) :
    (record.resolve (p ++ "." ++ i.repr)).value? = xs[i]? := by
  have hpoint : '.' ∉ i.repr.toList := by
    rw [Nat.toList_repr]
    exact Path.point_notMem_toDigits i
  rw [record.resolve_append hp Nat.repr_ne_empty, FieldValue.value?_andThen, h, Option.bind_some,
    resolve_of_notMem _ Nat.repr_ne_empty hpoint, Nat.toList_repr, value?_member_toDigits]

end Json

namespace Builtin
variable {L : PatternLanguage} {σ : Type}

/-- A group of candidates is met if the test holds for one of them. -/
theorem anyCandidate_predicate (slot : CacheSlot L σ) {op : Op} (hop : op ≠ .matches) (field : Option Json)
    (values : List Json) :
    anyCandidate (op.predicate slot) field values = pure (values.any (op.test field)) := by
  induction values with
  | nil => rfl
  | cons v vs ih =>
    rw [anyCandidate, call_predicate slot hop, pure_bind, ih, List.any_cons]
    cases op.test field v <;> rfl

/-- Under a name of an operator the outcome is that of the group of candidates. -/
theorem run_matches_name (slot : CacheSlot L σ) {name : String} {op : Op} (h : (name, op) ∈ allNames)
    (hop : op ≠ .matches) (path : String) (value : ConditionValue) (record : Json) (s : σ) :
    ((Condition.mk path (.named name) value).matches (registry slot) record).run s =
      (.ok (value.candidates.any (op.test (record.resolve path).value?)), s) := by
  rw [Condition.matches, evaluate_of_reading_plain (reading_name slot h), anyCandidate_predicate slot hop,
    Eval.run_pure]

/-- A marker in front of the name inverts it. -/
theorem run_matches_not_name (slot : CacheSlot L σ) {name : String} {op : Op} (h : (name, op) ∈ allNames)
    (hop : op ≠ .matches) (path : String) (value : ConditionValue) (record : Json) (s : σ) :
    ((Condition.mk path (.named ("not " ++ name)) value).matches (registry slot) record).run s =
      (.ok (!value.candidates.any (op.test (record.resolve path).value?)), s) := by
  have hempty : Text.AllBlank "" := by decide
  have hmarker : OperatorName.IsMarker "not " := .inr (by decide)
  have hreading := (tidy_registry slot).reading_marked_pad (mem_entries slot h) hmarker hempty hempty hempty
  simp only [String.empty_append, String.append_empty] at hreading
  rw [Condition.matches, evaluate_of_reading_negated hreading, anyCandidate_predicate slot hop, map_pure,
    Eval.run_pure]

/-- A value is an element of an array if some index reads a field that is strictly equal to it. -/
theorem test_has_iff (xs : List Json) (v : Json) :
    Op.has.test (some (.array xs)) v = true ↔ ∃ i : Nat, Op.strictEqual.test xs[i]? v = true := by
  simp only [Op.test, List.any_eq_true]
  constructor
  · rintro ⟨x, hx, heq⟩
    obtain ⟨i, hi⟩ := List.mem_iff_getElem?.mp hx
    refine ⟨i, ?_⟩
    rw [hi]
    exact heq
  · rintro ⟨i, hi⟩
    cases hx : xs[i]? with
    | none =>
      rw [hx] at hi
      cases hi
    | some x =>
      rw [hx] at hi
      exact ⟨x, List.mem_of_getElem? hx, hi⟩

/-- The same for a group of candidates, each of which may have an index of its own. -/
theorem any_has_iff (xs vs : List Json) :
    vs.any (Op.has.test (some (.array xs))) = true ↔
      ∃ i : Nat, vs.any (Op.strictEqual.test xs[i]?) = true := by
  simp only [List.any_eq_true, test_has_iff]
  constructor
  · rintro ⟨v, hv, i, hi⟩
    exact ⟨i, v, hv, hi⟩
  · rintro ⟨i, v, hv, hi⟩
    exact ⟨v, hv, i, hi⟩

/-- Where a path leads to an array, membership is strict equality at some index, and non-membership strict
inequality at all indices, also at those behind the last element. None of these conditions fails or leaves
another state. -/
theorem has_iff_element_equal (slot : CacheSlot L σ) (record : Json) {p : String} (hp : p ≠ "")
    {xs : List Json} (h : (record.resolve p).value? = some (.array xs)) (value : ConditionValue) (s : σ) :
    let answer (path text : String) : Except FilterError Bool × σ :=
      ((Condition.mk path (.named text) value).matches (registry slot) record).run s
    (∀ path, ∀ text ∈ ["has", "not has", "strict equal", "not strict equal"],
      ∃ b, answer path text = (.ok b, s)) ∧
    (answer p "has" = (.ok true, s) ↔
      ∃ i : Nat, answer (p ++ "." ++ i.repr) "strict equal" = (.ok true, s)) ∧
    (answer p "not has" = (.ok true, s) ↔
      ∀ i : Nat, answer (p ++ "." ++ i.repr) "not strict equal" = (.ok true, s)) := by
  intro answer
  have hnameHas : ("has", Op.has) ∈ allNames := by decide
  have hnameEqual : ("strict equal", Op.strictEqual) ∈ allNames := by decide
  have hhas : ∀ path, answer path "has" =
      (.ok (value.candidates.any (Op.has.test (record.resolve path).value?)), s) :=
    fun path => run_matches_name slot hnameHas (by decide) path value record s
  have hnotHas : ∀ path, answer path "not has" =
      (.ok (!value.candidates.any (Op.has.test (record.resolve path).value?)), s) :=
    fun path => run_matches_not_name slot hnameHas (by decide) path value record s
  have hequal : ∀ path, answer path "strict equal" =
      (.ok (value.candidates.any (Op.strictEqual.test (record.resolve path).value?)), s) :=
    fun path => run_matches_name slot hnameEqual (by decide) path value record s
  have hnotEqual : ∀ path, answer path "not strict equal" =
      (.ok (!value.candidates.any (Op.strictEqual.test (record.resolve path).value?)), s) :=
    fun path => run_matches_not_name slot hnameEqual (by decide) path value record s
  have htrue : ∀ {o : Except FilterError Bool × σ} {b : Bool}, o = (.ok b, s) →
      (o = (.ok true, s) ↔ b = true) := by
    rintro _ b rfl
    simp
  refine ⟨fun path text htext => ?_, ?_, ?_⟩
  · simp only [List.mem_cons, List.not_mem_nil, or_false] at htext
    rcases htext with rfl | rfl | rfl | rfl
    · exact ⟨_, hhas path⟩
    · exact ⟨_, hnotHas path⟩
    · exact ⟨_, hequal path⟩
    · exact ⟨_, hnotEqual path⟩
  · rw [htrue (hhas p), h, any_has_iff]
    refine exists_congr fun i => ?_
    rw [htrue (hequal _), Json.value?_resolve_element hp h]
  · rw [htrue (hnotHas p), h, Bool.not_eq_true', ← Bool.not_eq_true, any_has_iff, not_exists]
    refine forall_congr' fun i => ?_
    rw [htrue (hnotEqual _), Json.value?_resolve_element hp h, Bool.not_eq_true', Bool.not_eq_true]

/-- The second element equals a candidate that is a double; no element equals null. -/
theorem has_iff_element_equal_tags :
    let elements : List Json := [.string "a", .number (.signed 1)]
    let record : Json := .object [("tags", .array elements)]
    let pair : ConditionValue := .any [.string "b", .number (.float ⟨0x3FF0000000000000⟩)]
    let answer (path text : String) (value : ConditionValue) : Except FilterError Bool × PatternCache .words :=
      ((Condition.mk path (.named text) value).matches (registry (.whole .words)) record).run .empty
    "tags" ≠ "" ∧ (record.resolve "tags").value? = some (.array elements) ∧
    answer "tags.1" "strict equal" pair = (.ok true, .empty) ∧
    answer "tags" "has" pair = (.ok true, .empty) ∧
    answer "tags" "not has" (.one .null) = (.ok true, .empty) ∧
    ∀ i : Nat, answer ("tags" ++ "." ++ i.repr) "not strict equal" (.one .null) = (.ok true, .empty) := by
  intro elements record pair answer
  have hp : "tags" ≠ "" := by decide
  have harray : (record.resolve "tags").value? = some (.array elements) := rfl
  have hequal : answer "tags.1" "strict equal" pair = (.ok true, .empty) := by
    have htest : pair.candidates.any (Op.strictEqual.test (record.resolve "tags.1").value?) = true := by
      decide +kernel
    have hname : ("strict equal", Op.strictEqual) ∈ allNames := by decide
    have hrun := run_matches_name (.whole .words) hname (by decide) "tags.1" pair record PatternCache.empty
    rwa [htest] at hrun
  have hnone : answer "tags" "not has" (.one .null) = (.ok true, .empty) := rfl
  obtain ⟨-, hhas, -⟩ := has_iff_element_equal (.whole .words) record hp harray pair PatternCache.empty
  obtain ⟨-, -, hnot⟩ := has_iff_element_equal (.whole .words) record hp harray (.one .null) PatternCache.empty
  exact ⟨hp, harray, hequal, hhas.mpr ⟨1, hequal⟩, hnone, hnot.mp hnone⟩

end Builtin
end Sift
