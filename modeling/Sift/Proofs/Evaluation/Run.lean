import Mathlib.Control.Monad.Basic
import Sift.Condition

/-! # Runs of evaluations

An evaluation takes a state to an outcome and a state. The laws here say what the steps of an evaluation
do to both, and what an operator amounts to: perhaps a predicate, whose group of candidates is tried, and
whether the outcome of the group is inverted.
-/
namespace Sift

/-! ## Outcomes -/

section
variable {ε ε' α β : Type} {o : Except ε α} {f : α → β} {g : ε → ε'}

theorem map_eq_ok_iff {b : β} : o.map f = .ok b ↔ ∃ a, o = .ok a ∧ f a = b := by
  cases o <;> simp [Except.map]

theorem map_eq_error_iff {e : ε} : o.map f = .error e ↔ o = .error e := by
  cases o <;> simp [Except.map]

theorem mapError_eq_ok_iff {a : α} : o.mapError g = .ok a ↔ o = .ok a := by
  cases o <;> simp [Except.mapError]

theorem mapError_eq_error_iff {e' : ε'} : o.mapError g = .error e' ↔ ∃ e, o = .error e ∧ g e = e' := by
  cases o <;> simp [Except.mapError]

end

/-! ## Steps -/

variable {σ α β : Type}

namespace Eval

@[simp] theorem run_pure (a : α) (s : σ) : (pure a : Eval σ α).run s = (.ok a, s) := rfl

theorem run_bind (m : Eval σ α) (f : α → Eval σ β) (s : σ) :
    (m >>= f).run s = match m.run s with
      | (.ok a, t) => (f a).run t
      | (.error e, t) => (.error e, t) := by
  change (match m.run s with | (a, t) => ExceptT.bindCont f a t) = _
  rcases m.run s with ⟨_ | _, t⟩ <;> rfl

/-- What is done with a value touches neither an error nor the state. -/
theorem run_map (m : Eval σ α) (f : α → β) (s : σ) :
    (f <$> m).run s = ((m.run s).1.map f, (m.run s).2) := by
  rw [map_eq_pure_bind, run_bind]
  rcases m.run s with ⟨_ | _, t⟩ <;> rfl

theorem bind_ite_pure (m : Eval σ Bool) : (do if ← m then pure true else pure false) = m := by
  have hbody : (fun b : Bool => if b then (pure true : Eval σ Bool) else pure false) = pure := by
    funext b
    cases b <;> rfl
  rw [hbody, bind_pure]

end Eval

/-! ## Operators -/

/-- The predicate that an operator stands for, if there is one, and whether its outcome is inverted. -/
def Operator.reading (registry : Registry σ) : Operator σ → Option (Predicate σ) × Bool
  | .named text =>
    let parsed := OperatorName.parse text
    (registry.lookup? parsed.name, parsed.negated)
  | .function predicate => (some predicate, false)

/-- The two ways in which an operator is evaluated. -/
theorem evaluate_eq_reading (registry : Registry σ) (field : Option Json) (operator : Operator σ)
    (value : ConditionValue) :
    evaluate registry field operator value = match operator.reading registry with
      | (none, negated) => pure negated
      | (some predicate, negated) =>
        (· != negated) <$> anyCandidate predicate field value.candidates := by
  cases operator with
  | named text =>
    simp only [evaluate, Operator.reading]
    cases registry.lookup? (OperatorName.parse text).name with
    | none => rfl
    | some predicate => exact (map_eq_pure_bind _ _).symm
  | function predicate => simp [evaluate, Operator.reading]

theorem anyCandidate_singleton (p : Predicate σ) (field : Option Json) (v : Json) :
    anyCandidate p field [v] = p.call field v := Eval.bind_ite_pure _

variable {registry : Registry σ} {operator : Operator σ} {p : Predicate σ}

theorem evaluate_of_reading_none {negated : Bool} (h : operator.reading registry = (none, negated))
    (field : Option Json) (value : ConditionValue) :
    evaluate registry field operator value = pure negated := by
  rw [evaluate_eq_reading, h]

theorem evaluate_of_reading_plain (h : operator.reading registry = (some p, false))
    (field : Option Json) (value : ConditionValue) :
    evaluate registry field operator value = anyCandidate p field value.candidates := by
  rw [evaluate_eq_reading, h]
  simp only [Bool.bne_false, id_map']

theorem evaluate_of_reading_negated (h : operator.reading registry = (some p, true))
    (field : Option Json) (value : ConditionValue) :
    evaluate registry field operator value = not <$> anyCandidate p field value.candidates := by
  rw [evaluate_eq_reading, h]
  simp only [Bool.bne_true]

end Sift
