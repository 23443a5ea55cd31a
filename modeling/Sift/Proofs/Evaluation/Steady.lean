import Mathlib.Control.Monad.Basic
import Sift.Filter
import Sift.Proofs.Evaluation.Run

/-! # Steady evaluations

Predicates may change the state, such as a cache, and still answer by their arguments alone. An evaluation
is steady under an invariant of states if it keeps the invariant and has one outcome in all states that
satisfy it. What is made of steady predicates is steady.
-/
namespace Sift
variable {σ α β : Type} {inv : σ → Prop}

/-- The invariant is kept, and under it the outcome does not depend on the state. -/
structure Eval.Steady (inv : σ → Prop) (m : Eval σ α) : Prop where
  keeps : ∀ s, inv s → inv (m.run s).2
  outcome_eq : ∀ s t, inv s → inv t → (m.run s).1 = (m.run t).1

/-- The outcomes of a predicate depend on its arguments alone. -/
def Predicate.Steady (inv : σ → Prop) (p : Predicate σ) : Prop :=
  ∀ field value, Eval.Steady inv (p.call field value)

/-- The outcomes of all predicates that a filter can call depend on their arguments alone. -/
def Filter.Steady (inv : σ → Prop) (registry : Registry σ) (f : Filter σ) : Prop :=
  ∀ c ∈ f.conditions, ∀ p, (c.operator.reading registry).1 = some p → p.Steady inv

namespace Eval

theorem steady_pure (a : α) : Eval.Steady inv (pure a) := ⟨fun _ hs => hs, fun _ _ _ _ => rfl⟩

theorem Steady.bind {m : Eval σ α} {f : α → Eval σ β} (hm : Eval.Steady inv m)
    (hf : ∀ a, Eval.Steady inv (f a)) : Eval.Steady inv (m >>= f) := by
  constructor
  · intro s hs
    have hkeeps := hm.keeps s hs
    rw [run_bind]
    generalize m.run s = answer at hkeeps ⊢
    rcases answer with ⟨_ | a, t⟩
    · exact hkeeps
    · exact (hf a).keeps t hkeeps
  · intro s t hs ht
    have hsame := hm.outcome_eq s t hs ht
    have hkeeps := hm.keeps s hs
    have hkeeps' := hm.keeps t ht
    rw [run_bind, run_bind]
    generalize m.run s = answer at hsame hkeeps ⊢
    generalize m.run t = answer' at hsame hkeeps' ⊢
    obtain ⟨o, s'⟩ := answer
    obtain ⟨o', t'⟩ := answer'
    obtain rfl : o = o' := hsame
    cases o with
    | error e => rfl
    | ok a => exact (hf a).outcome_eq s' t' hkeeps hkeeps'

theorem Steady.map {m : Eval σ α} (hm : Eval.Steady inv m) (f : α → β) : Eval.Steady inv (f <$> m) := by
  rw [map_eq_pure_bind]
  exact hm.bind fun a => steady_pure (f a)

/-- The outcome of steady steps is that of the second one after that of the first, in any states. -/
theorem Steady.outcome_bind {m : Eval σ α} {f : α → Eval σ β} (hm : Eval.Steady inv m)
    (hf : ∀ a, Eval.Steady inv (f a)) {s t : σ} (hs : inv s) (ht : inv t) :
    ((m >>= f).run s).1 = (m.run t).1.bind fun a => ((f a).run t).1 := by
  rw [(hm.bind hf).outcome_eq s t hs ht, run_bind]
  have hkeeps := hm.keeps t ht
  generalize m.run t = answer at hkeeps ⊢
  rcases answer with ⟨_ | a, t'⟩
  · rfl
  · exact (hf a).outcome_eq t' t hkeeps ht

end Eval

theorem steady_anyCandidate {p : Predicate σ} (hp : p.Steady inv) (field : Option Json)
    (values : List Json) : Eval.Steady inv (anyCandidate p field values) := by
  induction values with
  | nil => exact Eval.steady_pure false
  | cons v vs ih =>
    refine (hp field v).bind fun met => ?_
    cases met with
    | true => exact Eval.steady_pure true
    | false => exact ih

theorem steady_evaluate {registry : Registry σ} {operator : Operator σ}
    (h : ∀ p, (operator.reading registry).1 = some p → p.Steady inv) (field : Option Json)
    (value : ConditionValue) : Eval.Steady inv (evaluate registry field operator value) := by
  rw [evaluate_eq_reading]
  generalize operator.reading registry = reading at h ⊢
  rcases reading with ⟨_ | p, negated⟩
  · exact Eval.steady_pure negated
  · exact (steady_anyCandidate (h p rfl) field value.candidates).map (· != negated)

theorem Filter.Steady.test {registry : Registry σ} {f : Filter σ} (h : f.Steady inv registry)
    (record : Json) : Eval.Steady inv (f.test registry record) := by
  obtain ⟨conditions⟩ := f
  unfold Filter.test
  induction conditions with
  | nil => exact Eval.steady_pure true
  | cons c cs ih =>
    refine (steady_evaluate (h c List.mem_cons_self) _ _).bind fun holds => ?_
    cases holds with
    | true => exact ih fun d hd => h d (List.mem_cons_of_mem c hd)
    | false => exact Eval.steady_pure false

end Sift
