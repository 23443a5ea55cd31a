import Sift.Pattern.Words
import Sift.Proofs.Builtin.Naming

/-! # Texts inside texts

Three operators look for the text of a value in a field: at its start, at its end, and anywhere in it. The
first two take the text of any scalar, the third one searches texts only. On texts all three come down to how
a row of characters is put together: a text stands inside another one if it starts some rest of it, or ends
some part that the other one starts with.
-/
namespace Sift

namespace Json

theorem exists_toText?_iff {v : Json} : (∃ t, v.toText? = some t) ↔ v.isContainer = false := by
  cases v <;> simp [toText?, isContainer, kind]

end Json

namespace Text

theorem toList_isPrefix_iff {s t : String} : t.toList <+: s.toList ↔ ∃ y, s = t ++ y := by
  constructor
  · rintro ⟨y, h⟩
    exact ⟨String.ofList y, String.toList_inj.mp (by simp [h])⟩
  · rintro ⟨y, rfl⟩
    exact ⟨y.toList, by simp⟩

theorem toList_isSuffix_iff {s t : String} : t.toList <:+ s.toList ↔ ∃ x, s = x ++ t := by
  constructor
  · rintro ⟨x, h⟩
    exact ⟨String.ofList x, String.toList_inj.mp (by simp [h])⟩
  · rintro ⟨x, rfl⟩
    exact ⟨x.toList, by simp⟩

theorem toList_isInfix_iff {s t : String} : t.toList <:+: s.toList ↔ ∃ x y, s = x ++ t ++ y := by
  constructor
  · rintro ⟨x, y, h⟩
    exact ⟨String.ofList x, String.ofList y, String.toList_inj.mp (by simp [← h])⟩
  · rintro ⟨x, y, rfl⟩
    exact ⟨x.toList, y.toList, by simp⟩

end Text

namespace Builtin
open Text

variable {L : PatternLanguage} {σ : Type} {field : Option Json} {v : Json}

/-! ## The three tests -/

/-- The search finds every place, also one that overlaps a beginning that goes on differently. -/
theorem isInfix_iff {needle text : List Char} : isInfix needle text = true ↔ needle <:+: text := by
  induction text with
  | nil => simp [isInfix]
  | cons c cs ih => rw [isInfix, Bool.or_eq_true, List.isPrefixOf_iff_prefix, ih, List.infix_cons_iff]

theorem onTexts_eq_true_iff {test : List Char → List Char → Bool} :
    onTexts test field v = true ↔ ∃ a t, field.bind Json.toText? = some a ∧ v.toText? = some t ∧
      test a.toList t.toList = true := by
  unfold onTexts
  cases field.bind Json.toText? <;> cases v.toText? <;> simp

theorem test_startsWith_iff :
    Op.startsWith.test field v = true ↔
      ∃ a t, field.bind Json.toText? = some a ∧ v.toText? = some t ∧ t.toList <+: a.toList := by
  simp only [Op.test, onTexts_eq_true_iff, List.isPrefixOf_iff_prefix]

theorem test_endsWith_iff :
    Op.endsWith.test field v = true ↔
      ∃ a t, field.bind Json.toText? = some a ∧ v.toText? = some t ∧ t.toList <:+ a.toList := by
  simp only [Op.test, onTexts_eq_true_iff, List.isSuffixOf_iff_suffix]

theorem test_startsWith_string_iff {a : String} :
    Op.startsWith.test (some (.string a)) v = true ↔ ∃ t y, v.toText? = some t ∧ a = t ++ y := by
  simp [test_startsWith_iff, Json.toText?, toList_isPrefix_iff]

theorem test_endsWith_string_iff {a : String} :
    Op.endsWith.test (some (.string a)) v = true ↔ ∃ t x, v.toText? = some t ∧ a = x ++ t := by
  simp [test_endsWith_iff, Json.toText?, toList_isSuffix_iff]

theorem test_contains_iff :
    Op.contains.test field v = true ↔
      ∃ x t y, field = some (.string (x ++ t ++ y)) ∧ v.toText? = some t := by
  cases field with
  | none => simp [Op.test]
  | some value =>
    cases value with
    | string a =>
      simp only [Op.test, onTexts_eq_true_iff, isInfix_iff, toList_isInfix_iff, Option.bind_some, Json.toText?,
        Option.some.injEq, Json.string.injEq]
      constructor
      · rintro ⟨_, t, rfl, ht, x, y, ha⟩
        exact ⟨x, t, y, ha, ht⟩
      · rintro ⟨x, t, y, ha, ht⟩
        exact ⟨a, t, rfl, ht, x, y, ha⟩
    | null | bool _ | number _ | array _ | object _ => simp [Op.test]

/-- A text is found where some rest of the field starts with it. -/
theorem test_contains_iff_startsWith :
    Op.contains.test field v = true ↔
      ∃ x y, field = some (.string (x ++ y)) ∧ Op.startsWith.test (some (.string y)) v = true := by
  simp only [test_contains_iff, test_startsWith_string_iff]
  constructor
  · rintro ⟨x, t, y, rfl, ht⟩
    exact ⟨x, t ++ y, by rw [String.append_assoc], t, y, ht, rfl⟩
  · rintro ⟨x, _, rfl, t, y, ht, rfl⟩
    exact ⟨x, t, y, by rw [String.append_assoc], ht⟩

/-- It is found where some part that the field starts with ends with it. -/
theorem test_contains_iff_endsWith :
    Op.contains.test field v = true ↔
      ∃ x y, field = some (.string (x ++ y)) ∧ Op.endsWith.test (some (.string x)) v = true := by
  simp only [test_contains_iff, test_endsWith_string_iff]
  constructor
  · rintro ⟨x, t, y, rfl, ht⟩
    exact ⟨x ++ t, y, rfl, t, x, ht, rfl⟩
  · rintro ⟨_, y, rfl, t, x, ht, rfl⟩
    exact ⟨x, t, y, rfl, ht⟩

theorem test_contains_of_startsWith {a : String} (h : Op.startsWith.test (some (.string a)) v = true) :
    Op.contains.test (some (.string a)) v = true :=
  test_contains_iff_startsWith.mpr ⟨"", a, by rw [String.empty_append], h⟩

theorem test_contains_of_endsWith {a : String} (h : Op.endsWith.test (some (.string a)) v = true) :
    Op.contains.test (some (.string a)) v = true :=
  test_contains_iff_endsWith.mpr ⟨a, "", by rw [String.append_empty], h⟩

theorem test_startsWith_self {t : String} (ht : v.toText? = some t) : Op.startsWith.test (some v) v = true :=
  test_startsWith_iff.mpr ⟨t, t, ht, ht, List.prefix_rfl⟩

theorem test_endsWith_self {t : String} (ht : v.toText? = some t) : Op.endsWith.test (some v) v = true :=
  test_endsWith_iff.mpr ⟨t, t, ht, ht, List.suffix_rfl⟩

/-! ## Their names -/

theorem run_evaluate_name (slot : CacheSlot L σ) {name : String} {op : Op} (h : (name, op) ∈ allNames)
    (hop : op ≠ .matches) (field : Option Json) (v : Json) (s : σ) :
    (evaluate (registry slot) field (.named name) (.one v)).run s = (.ok (op.test field v), s) := by
  have hgroup : anyCandidate (op.predicate slot) field (ConditionValue.one v).candidates =
      pure (op.test field v) := (anyCandidate_singleton _ _ _).trans (call_predicate slot hop field v)
  rw [evaluate_of_reading_plain (reading_name slot h), hgroup, Eval.run_pure]

/-- Whatever the field and the one candidate are, the operators that look for texts answer without a failure
and without another state. At the start and at the end of a field the text of the candidate stands as a part of
the text of the field, character by character. Inside a field it stands if the field is a text that is put
together from something, the text of the candidate and something, which is to say that some rest of the field
starts with the candidate, or that some part that the field starts with ends with the candidate. So a text
contains what it starts or ends with, and each scalar starts and ends with itself. -/
theorem text_operators_agree (slot : CacheSlot L σ) (s : σ) (field : Option Json) (v : Json) :
    let outcome (name : String) (x : Option Json) : Except FilterError Bool × σ :=
      (evaluate (registry slot) x (.named name) (.one v)).run s
    let holds (name : String) (x : Option Json) : Prop := outcome name x = (.ok true, s)
    (∀ name ∈ ["starts with", "ends with", "contains"], ∃ b, outcome name field = (.ok b, s)) ∧
    (holds "starts with" field ↔
      ∃ a t, field.bind Json.toText? = some a ∧ v.toText? = some t ∧ t.toList <+: a.toList) ∧
    (holds "ends with" field ↔
      ∃ a t, field.bind Json.toText? = some a ∧ v.toText? = some t ∧ t.toList <:+ a.toList) ∧
    (holds "contains" field ↔ ∃ x t y, field = some (.string (x ++ t ++ y)) ∧ v.toText? = some t) ∧
    (holds "contains" field ↔
      ∃ x y, field = some (.string (x ++ y)) ∧ holds "starts with" (some (.string y))) ∧
    (holds "contains" field ↔
      ∃ x y, field = some (.string (x ++ y)) ∧ holds "ends with" (some (.string x))) ∧
    (∀ a, field = some (.string a) → holds "starts with" field ∨ holds "ends with" field →
      holds "contains" field) ∧
    (v.isContainer = false → holds "starts with" (some v) ∧ holds "ends with" (some v)) := by
  intro outcome holds
  have hnameStarts : ("starts with", Op.startsWith) ∈ allNames := by decide
  have hnameEnds : ("ends with", Op.endsWith) ∈ allNames := by decide
  have hnameContains : ("contains", Op.contains) ∈ allNames := by decide
  have hstarts : ∀ x, outcome "starts with" x = (.ok (Op.startsWith.test x v), s) :=
    fun x => run_evaluate_name slot hnameStarts (by decide) x v s
  have hends : ∀ x, outcome "ends with" x = (.ok (Op.endsWith.test x v), s) :=
    fun x => run_evaluate_name slot hnameEnds (by decide) x v s
  have hcontains : ∀ x, outcome "contains" x = (.ok (Op.contains.test x v), s) :=
    fun x => run_evaluate_name slot hnameContains (by decide) x v s
  have htrue : ∀ b : Bool, ((.ok b, s) : Except FilterError Bool × σ) = (.ok true, s) ↔ b = true := by simp
  simp only [holds, hstarts, hends, hcontains, htrue]
  refine ⟨?_, test_startsWith_iff, test_endsWith_iff, test_contains_iff, test_contains_iff_startsWith,
    test_contains_iff_endsWith, ?_, fun hscalar => ?_⟩
  · simp [hstarts, hends, hcontains]
  · rintro a rfl (h | h)
    · exact test_contains_of_startsWith h
    · exact test_contains_of_endsWith h
  · obtain ⟨t, ht⟩ := Json.exists_toText?_iff.mpr hscalar
    exact ⟨test_startsWith_self ht, test_endsWith_self ht⟩

/-- The search goes on behind a beginning that it has to give up. A whole double is written without its point,
so that a number ends with it, but no number contains it. -/
theorem text_operators_agree_overlapping :
    let outcome (name : String) (x : Option Json) (v : Json) : Except FilterError Bool × PatternCache .words :=
      (evaluate (registry (.whole .words)) x (.named name) (.one v)).run .empty
    let needle : Json := .string "aab"
    let one : Json := .number (.float ⟨0x3FF0000000000000⟩)
    let number : Json := .number (.signed 21)
    needle.isContainer = false ∧ one.isContainer = false ∧
    outcome "starts with" (some (.string "aab€")) needle = (.ok true, .empty) ∧
    outcome "contains" (some (.string "aab€")) needle = (.ok true, .empty) ∧
    outcome "contains" (some (.string "éaaab€")) needle = (.ok true, .empty) ∧
    outcome "ends with" (some needle) needle = (.ok true, .empty) ∧
    outcome "ends with" (some number) one = (.ok true, .empty) ∧
    outcome "contains" (some number) one ≠ (.ok true, .empty) ∧
    outcome "starts with" (some one) one = (.ok true, .empty) := by
  intro outcome needle one number
  have hone : one.toText? = some "1" := by decide +kernel
  have hnumber : number.toText? = some "21" := by decide +kernel
  obtain ⟨-, hstarts, -, -, -, -, hfound, hself⟩ :=
    text_operators_agree (.whole .words) PatternCache.empty (some (.string "aab€")) needle
  obtain ⟨-, -, -, -, hrest, -⟩ :=
    text_operators_agree (.whole .words) PatternCache.empty (some (.string "éaaab€")) needle
  obtain ⟨-, -, hends, hcontains, -, -, -, hselfOne⟩ :=
    text_operators_agree (.whole .words) PatternCache.empty (some number) one
  have hstart := hstarts.mpr ⟨"aab€", "aab", rfl, rfl, by decide⟩
  refine ⟨rfl, rfl, hstart, hfound "aab€" rfl (.inl hstart), hrest.mpr ⟨"éa", "aab€", rfl, hstart⟩,
    (hself rfl).2, hends.mpr ⟨"21", "1", hnumber, hone, by decide⟩, fun h => ?_, (hselfOne rfl).1⟩
  obtain ⟨_, _, _, hstring, -⟩ := hcontains.mp h
  exact absurd hstring (by simp [number])

end Builtin
end Sift
