import Mathlib.Control.Monad.Basic
import Sift.Proofs.Filter.Partition

/-! # Settled rows

A lazy row is settled by its first outcome other than the one to go on with. Under an invariant of states
the outcomes of steady steps are fixed beforehand: what a group of candidates, a condition and a test come
to can be read off the rows of these outcomes.
-/
namespace Sift
variable {σ : Type} {inv : σ → Prop}

section Rows
variable {go : Bool} {o : Except FilterError Bool} {os : List (Except FilterError Bool)}

/-- What a row of outcomes comes to: the first one other than `go`, and `go` if there is no other. -/
def settle (go : Bool) : List (Except FilterError Bool) → Except FilterError Bool
  | [] => .ok go
  | o :: os => if o = .ok go then settle go os else o

theorem settle_cons_of_eq (h : o = .ok go) (os : List (Except FilterError Bool)) :
    settle go (o :: os) = settle go os := if_pos h

theorem settle_cons_of_ne (h : o ≠ .ok go) (os : List (Except FilterError Bool)) :
    settle go (o :: os) = o := if_neg h

theorem settle_eq_go_iff : settle go os = .ok go ↔ ∀ o ∈ os, o = .ok go := by
  induction os with
  | nil => simp [settle]
  | cons o os ih =>
    by_cases h : o = .ok go
    · rw [settle_cons_of_eq h, ih]
      simp [h]
    · simp [settle_cons_of_ne h, h]

theorem settle_mem (h : settle go os ≠ .ok go) : settle go os ∈ os := by
  induction os with
  | nil => exact absurd rfl h
  | cons o os ih =>
    by_cases ho : o = .ok go
    · rw [settle_cons_of_eq ho] at h ⊢
      exact List.mem_cons_of_mem o (ih h)
    · rw [settle_cons_of_ne ho]
      exact List.mem_cons_self

theorem exists_settle_eq_ok (h : ∀ o ∈ os, ∃ b, o = .ok b) (go : Bool) : ∃ b, settle go os = .ok b := by
  by_cases hgo : settle go os = .ok go
  · exact ⟨go, hgo⟩
  · exact h _ (settle_mem hgo)

theorem settle_append_of_go (h : ∀ o ∈ os, o = .ok go) (os' : List (Except FilterError Bool)) :
    settle go (os ++ os') = settle go os' := by
  induction os with
  | nil => rfl
  | cons o os ih =>
    rw [List.cons_append, settle_cons_of_eq (h o List.mem_cons_self)]
    exact ih fun p hp => h p (List.mem_cons_of_mem o hp)

/-- A row ends with an outcome other than `go` that has nothing but `go` before it. -/
theorem settle_map_eq_iff {α : Type} (ho : o ≠ .ok go) (f : α → Except FilterError Bool) (as : List α) :
    settle go (as.map f) = o ↔
      ∃ before a after, as = before ++ a :: after ∧ f a = o ∧ ∀ b ∈ before, f b = .ok go := by
  constructor
  · intro h
    induction as with
    | nil => exact absurd h.symm ho
    | cons a as ih =>
      rw [List.map_cons] at h
      by_cases ha : f a = .ok go
      · rw [settle_cons_of_eq ha] at h
        obtain ⟨before, b, after, rfl, hb, hbefore⟩ := ih h
        exact ⟨a :: before, b, after, rfl, hb, List.forall_mem_cons.mpr ⟨ha, hbefore⟩⟩
      · rw [settle_cons_of_ne ha] at h
        exact ⟨[], a, as, rfl, h, fun b hb => absurd hb List.not_mem_nil⟩
  · rintro ⟨before, a, after, rfl, ha, hbefore⟩
    have hgo : ∀ p ∈ before.map f, p = .ok go := by simpa using hbefore
    rw [List.map_append, settle_append_of_go hgo, List.map_cons, settle_cons_of_ne (ha ▸ ho), ha]

end Rows

/-! ## Steady rows -/

/-- A loop that goes on after the outcome `go` and returns any other one comes to what the outcomes of its
steps are settled to, in any state. -/
theorem Eval.outcome_loop {α : Type} (go : Bool) (loop : List α → Eval σ Bool) {body : α → Eval σ Bool}
    (hnil : loop [] = pure go)
    (hcons : ∀ a as, loop (a :: as) = body a >>= fun b => if b = go then loop as else pure b)
    (as : List α) (hbody : ∀ a ∈ as, Eval.Steady inv (body a)) {s t : σ} (hs : inv s) (ht : inv t) :
    ((loop as).run t).1 = settle go (as.map fun a => ((body a).run s).1) := by
  -- The steps start from states that differ from `s`, but all of them meet the invariant.
  induction as generalizing t with
  | nil =>
    rw [hnil]
    rfl
  | cons a as ih =>
    have ha := hbody a List.mem_cons_self
    have hsame := ha.outcome_eq t s ht hs
    have hkeeps := ha.keeps t ht
    rw [hcons, run_bind, List.map_cons, ← hsame]
    generalize (body a).run t = answer at hkeeps ⊢
    obtain ⟨o, t'⟩ := answer
    cases o with
    | error e => exact (settle_cons_of_ne (by simp) _).symm
    | ok b =>
      by_cases hb : b = go
      · subst hb
        rw [settle_cons_of_eq rfl]
        simpa using ih (fun c hc => hbody c (List.mem_cons_of_mem a hc)) hkeeps
      · rw [settle_cons_of_ne (by simpa using hb)]
        simp [hb]

theorem outcome_anyCandidate {p : Predicate σ} (hp : p.Steady inv) (field : Option Json)
    (values : List Json) {s t : σ} (hs : inv s) (ht : inv t) :
    ((anyCandidate p field values).run t).1 =
      settle false (values.map fun v => ((p.call field v).run s).1) := by
  refine Eval.outcome_loop false (anyCandidate p field) rfl (fun v vs => ?_) values
    (fun v _ => hp field v) hs ht
  refine bind_congr fun b => ?_
  cases b <;> rfl

/-- The predicates that a condition can call depend on their arguments alone. -/
def Condition.Steady (inv : σ → Prop) (registry : Registry σ) (c : Condition σ) : Prop :=
  ∀ p, (c.operator.reading registry).1 = some p → p.Steady inv

theorem Condition.Steady.matches {registry : Registry σ} {c : Condition σ} (h : c.Steady inv registry)
    (record : Json) : Eval.Steady inv (c.matches registry record) := steady_evaluate h _ _

/-- What a condition comes to in a state, as the outcomes of its candidates have it. -/
def Condition.verdict (registry : Registry σ) (s : σ) (record : Json) (c : Condition σ) :
    Except FilterError Bool :=
  match c.operator.reading registry with
  | (none, negated) => .ok negated
  | (some p, negated) =>
    (settle false (c.value.candidates.map fun v =>
      ((p.call (record.resolve c.field).value? v).run s).1)).map (· != negated)

theorem Condition.Steady.outcome_matches {registry : Registry σ} {c : Condition σ}
    (h : c.Steady inv registry) (record : Json) {s t : σ} (hs : inv s) (ht : inv t) :
    ((c.matches registry record).run t).1 = c.verdict registry s record := by
  rw [Condition.matches, evaluate_eq_reading, Condition.verdict]
  unfold Condition.Steady at h
  rcases hr : c.operator.reading registry with ⟨_ | p, negated⟩
  · rfl
  · have hp : p.Steady inv := h p (by rw [hr])
    rw [Eval.run_map, outcome_anyCandidate hp _ _ hs ht]

namespace Filter
variable {registry : Registry σ} {f : Filter σ}

theorem Steady.outcome_test_eq_settle (h : f.Steady inv registry) (record : Json) {s t : σ} (hs : inv s)
    (ht : inv t) :
    f.verdict registry t record =
      settle true (f.conditions.map fun c => ((c.matches registry record).run s).1) :=
  Eval.outcome_loop true (testAll registry record) rfl
    (fun c cs => bind_congr fun b => by cases b <;> rfl) f.conditions
    (fun c hc => Condition.Steady.matches (h c hc) record) hs ht

theorem Steady.outcome_test (h : f.Steady inv registry) (record : Json) {s t : σ} (hs : inv s)
    (ht : inv t) :
    f.verdict registry t record = settle true (f.conditions.map (Condition.verdict registry s record)) := by
  refine (h.outcome_test_eq_settle record hs ht).trans (congrArg (settle true) ?_)
  exact List.map_congr_left fun c hc => Condition.Steady.outcome_matches (h c hc) record hs hs

end Filter
end Sift
