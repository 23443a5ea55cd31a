import Sift.Pattern.Words
import Sift.Proofs.Builtin.Naming
import Sift.Proofs.Json.Alike

/-! # Candidates that filter alike

The built-in operators do not tell alike candidates apart, so condition values with alike candidates are
evaluated alike. The same candidates, up to strict equality, are alike unless an integer beyond the limit of
exact doubles faces a double: then a field may be greater than the one and not than the other.
-/
namespace Sift

/-- A group of candidates is known by the outcomes of the calls. -/
theorem anyCandidate_congr {σ : Type} {p : Predicate σ} {field : Option Json} {vs ws : List Json}
    (h : List.Forall₂ (fun v w => p.call field v = p.call field w) vs ws) :
    anyCandidate p field vs = anyCandidate p field ws := by
  induction h with
  | nil => rfl
  | cons hvw _ ih => simp only [anyCandidate, hvw, ih]

namespace Builtin
variable {L : PatternLanguage} {σ : Type}

theorem onTexts_congr {x y : Json} (h : Json.Alike x y) (test : List Char → List Char → Bool)
    (field : Option Json) : onTexts test field x = onTexts test field y := by
  unfold onTexts
  rw [h.toText?]

theorem test_congr {x y : Json} (h : Json.Alike x y) (op : Op) (field : Option Json) :
    op.test field x = op.test field y := by
  have hequal : Json.looseEq field x = Json.looseEq field y := by
    cases field with
    | none =>
      unfold Json.looseEq
      rw [h.kind]
    | some v =>
      unfold Json.looseEq Json.isContainer
      dsimp only
      rw [h.kind, h.strictEq v, h.order?]
  cases op with
  | greaterThan | greaterThanOrEqual | lessThan | lessThanOrEqual => simp only [Op.test, h.order? field]
  | equal => exact hequal
  | strictEqual =>
    cases field with
    | none => rfl
    | some v => exact h.strictEq v
  | contains =>
    cases field with
    | none => rfl
    | some v =>
      cases v with
      | string text => simp only [Op.test, onTexts_congr h]
      | null | bool _ | number _ | array _ | object _ => rfl
  | has =>
    cases field with
    | none => rfl
    | some v =>
      cases v with
      | array items => simp only [Op.test, h.strictEq]
      | null | bool _ | number _ | string _ | object _ => rfl
  | startsWith | endsWith => simp only [Op.test, onTexts_congr h]
  | «matches» => simp only [Op.test]

theorem matchPattern_congr {x y : Json} (h : Json.Alike x y) (slot : CacheSlot L σ) (field : Option Json) :
    matchPattern slot field x = matchPattern slot field y := by
  by_cases hx : ∃ source, x = .string source
  · obtain ⟨source, rfl⟩ := hx
    rw [(h.string source).mp rfl]
  · have hnone : ∀ {v : Json}, (¬ ∃ source, v = .string source) → matchPattern slot field v = pure false := by
      intro v hv
      cases v with
      | string source => exact absurd ⟨source, rfl⟩ hv
      | null | bool _ | number _ | array _ | object _ => rfl
    have hy : ¬ ∃ source, y = .string source := fun ⟨source, hs⟩ => hx ⟨source, (h.string source).mpr hs⟩
    rw [hnone hx, hnone hy]

/-- No built-in operator tells alike candidates apart. -/
theorem call_congr {x y : Json} (h : Json.Alike x y) (slot : CacheSlot L σ) (op : Op) (field : Option Json) :
    (op.predicate slot).call field x = (op.predicate slot).call field y := by
  by_cases hop : op = .matches
  · rw [hop]
    exact matchPattern_congr h slot field
  · rw [call_predicate slot hop, call_predicate slot hop, test_congr h]

theorem evaluate_congr (slot : CacheSlot L σ) {a b : ConditionValue}
    (h : List.Forall₂ Json.Alike a.candidates b.candidates) (text : String) (field : Option Json) :
    evaluate (registry slot) field (.named text) a = evaluate (registry slot) field (.named text) b := by
  unfold evaluate
  cases hp : (registry slot).lookup? (OperatorName.parse text).name with
  | none => simp only [hp]
  | some p =>
    have hentry := hp
    rw [Registry.lookup?] at hentry
    obtain ⟨op, rfl⟩ := isBuiltin_of_mem_entries _ (Registry.mem_of_lookup hentry)
    have hgroup := anyCandidate_congr (h.imp fun x y hxy => call_congr hxy slot op field)
    simp only [hp, hgroup]

/-- Condition values with the same candidates are evaluated alike, by every operator text on every field,
if no integer of more than 53 bits faces a double of its value. -/
theorem evaluate_sameCandidates (slot : CacheSlot L σ) {a b : ConditionValue}
    (ha : ∀ v ∈ a.candidates, v.IsCanonical) (hb : ∀ v ∈ b.candidates, v.IsCanonical)
    (hexact : ∀ x y, (x, y) ∈ a.candidates.zip b.candidates →
      ∀ p q, Json.Facing x y p q → p.ExactPair q)
    (h : a.sameCandidates b = true) (text : String) (field : Option Json) :
    evaluate (registry slot) field (.named text) a = evaluate (registry slot) field (.named text) b := by
  refine evaluate_congr slot (Json.forall₂_of_strictEqItems h fun x y hxy hequal => ?_) text field
  obtain ⟨hx, hy⟩ := List.of_mem_zip hxy
  exact Json.alike_of_strictEq (ha x hx) (hb y hy) (hexact x y hxy) hequal

/-- The largest integer of 53 bits may face its double, and so may the two zeros. -/
theorem evaluate_sameCandidates_exact :
    let a : ConditionValue := .any [.number (.signed 9007199254740991), .number (.float ⟨0⟩)]
    let b : ConditionValue := .any [.number (.float ⟨0x433FFFFFFFFFFFFF⟩), .number (.signed 0)]
    (∀ v ∈ a.candidates, v.IsCanonical) ∧ (∀ v ∈ b.candidates, v.IsCanonical) ∧
    (∀ x y, (x, y) ∈ a.candidates.zip b.candidates →
      ∀ p q, Json.Facing x y p q → p.ExactPair q) ∧
    a.sameCandidates b = true ∧
    ∀ text field, evaluate (registry (.whole .words)) field (.named text) a =
      evaluate (registry (.whole .words)) field (.named text) b := by
  intro a b
  have hfinite : ∀ {x : Binary64}, x.isFinite = true → (Json.number (.float x)).IsCanonical := fun h => h
  have ha : ∀ v ∈ a.candidates, v.IsCanonical := by
    intro v hv
    rcases List.mem_pair.mp hv with rfl | rfl
    · exact trivial
    · exact hfinite (by decide)
  have hb : ∀ v ∈ b.candidates, v.IsCanonical := by
    intro v hv
    rcases List.mem_pair.mp hv with rfl | rfl
    · exact hfinite (by decide)
    · exact trivial
  have hexact : ∀ x y, (x, y) ∈ a.candidates.zip b.candidates →
      ∀ p q, Json.Facing x y p q → p.ExactPair q := by
    intro x y hxy p q hf
    rcases List.mem_pair.mp hxy with heq | heq <;> cases heq <;> cases hf
    · refine ⟨fun i x hi _ => ?_, fun i x hi _ => (by cases hi)⟩
      obtain rfl := Option.some.inj hi
      decide +kernel
    · refine ⟨fun i x hi _ => (by cases hi), fun i x hi _ => ?_⟩
      obtain rfl := Option.some.inj hi
      decide +kernel
  have hsame : a.sameCandidates b = true := by decide +kernel
  exact ⟨ha, hb, hexact, hsame, fun text field => evaluate_sameCandidates (.whole .words) ha hb hexact hsame text field⟩

/-- The limit is sharp: the next integer and its double are the same candidates, and the integer after it
is greater than the former only. -/
theorem not_evaluate_sameCandidates :
    let a : ConditionValue := .one (.number (.signed 9007199254740992))
    let b : ConditionValue := .one (.number (.float ⟨0x4340000000000000⟩))
    let field : Option Json := some (.number (.signed 9007199254740993))
    (∀ v ∈ a.candidates, v.IsCanonical) ∧ (∀ v ∈ b.candidates, v.IsCanonical) ∧
    a.sameCandidates b = true ∧
    evaluate (registry (.whole .words)) field (.named ">") a = pure true ∧
    evaluate (registry (.whole .words)) field (.named ">") b = pure false ∧
    evaluate (registry (.whole .words)) field (.named ">") a ≠ evaluate (registry (.whole .words)) field (.named ">") b := by
  intro a b field
  have hname : (">", Op.greaterThan) ∈ allNames := by decide
  have hempty : Text.AllBlank "" := by decide
  have hvalue : ∀ v, evaluate (registry (.whole .words)) field (.named ">") (.one v) =
      pure (Op.greaterThan.test field v) := by
    intro v
    have heval := evaluate_pad (.whole .words) hname (by decide) hempty hempty field v
    rwa [String.empty_append, String.append_empty] at heval
  have ha : evaluate (registry (.whole .words)) field (.named ">") a = pure true := by
    have htest : Op.greaterThan.test field (.number (.signed 9007199254740992)) = true := by decide +kernel
    rw [hvalue, htest]
  have hb : evaluate (registry (.whole .words)) field (.named ">") b = pure false := by
    have htest : Op.greaterThan.test field (.number (.float ⟨0x4340000000000000⟩)) = false := by
      decide +kernel
    rw [hvalue, htest]
  refine ⟨?_, ?_, by decide +kernel, ha, hb, ?_⟩
  · intro v hv
    obtain rfl := List.mem_singleton.mp hv
    exact trivial
  · intro v hv
    obtain rfl := List.mem_singleton.mp hv
    have hfinite : (⟨0x4340000000000000⟩ : Binary64).isFinite = true := by decide
    exact hfinite
  · rw [ha, hb]
    intro hsame
    have hrun := congrArg (fun m : Eval (PatternCache .words) Bool => (m.run .empty).1) hsame
    cases hrun

end Builtin
end Sift
