import Mathlib.Control.Monad.Basic
import Sift.Proofs.Filter.History
import Sift.Proofs.Filter.Rearrangement

/-! # Conditions narrow

A test holds if all conditions do, so a filter that is left with some of its conditions holds wherever it
held before. A test that does not hold is settled by a condition that stays the first one to settle it,
whatever is appended.
-/
namespace Sift
variable {σ : Type} {inv : σ → Prop}

namespace Filter

theorem retain_sublist (selects : List (Condition σ) → Condition σ → Bool)
    (asked cs : List (Condition σ)) : (retain selects asked cs).Sublist cs := by
  induction cs generalizing asked with
  | nil => exact .slnil
  | cons c cs ih =>
    rw [retain]
    split
    · exact (ih _).cons c
    · exact (ih _).cons_cons c

namespace Edit

def IsRemoval : Edit σ → Prop
  | add _ | extend _ => False
  | remove _ | removeWhere _ | clear => True

def IsAppending : Edit σ → Prop
  | add _ | extend _ => True
  | remove _ | removeWhere _ | clear => False

theorem IsRemoval.sublist {e : Edit σ} (h : e.IsRemoval) (f : Filter σ) :
    (e.apply f).conditions.Sublist f.conditions := by
  have hnothing : e.appends = [] := by
    cases e with
    | add _ | extend _ => exact h.elim
    | remove _ | removeWhere _ | clear => rfl
  rw [conditions_apply, hnothing, List.append_nil]
  exact retain_sublist _ _ _

theorem IsAppending.conditions {e : Edit σ} (h : e.IsAppending) (f : Filter σ) :
    (e.apply f).conditions = f.conditions ++ e.appends := by
  cases e with
  | add _ | extend _ => rfl
  | remove _ | removeWhere _ | clear => exact h.elim

end Edit

theorem edit_sublist {es : List (Edit σ)} (h : ∀ e ∈ es, e.IsRemoval) (f : Filter σ) :
    (f.edit es).conditions.Sublist f.conditions := by
  induction es generalizing f with
  | nil => exact .refl _
  | cons e es ih =>
    have hrest := ih (fun e' he => h e' (List.mem_cons_of_mem e he)) (e.apply f)
    exact hrest.trans ((h e List.mem_cons_self).sublist f)

theorem conditions_edit_of_appending {es : List (Edit σ)} (h : ∀ e ∈ es, e.IsAppending) (f : Filter σ) :
    (f.edit es).conditions = f.conditions ++ appended es := by
  induction es generalizing f with
  | nil => exact (List.append_nil _).symm
  | cons e es ih =>
    have hrest := ih (fun e' he => h e' (List.mem_cons_of_mem e he)) (e.apply f)
    rw [(h e List.mem_cons_self).conditions f, List.append_assoc] at hrest
    exact hrest

/-! ## Tests -/

section
variable {registry : Registry σ} {f g : Filter σ} {record : Json}

theorem testAll_append (registry : Registry σ) (record : Json) (cs ds : List (Condition σ)) :
    testAll registry record (cs ++ ds) =
      testAll registry record cs >>= fun b => if b then testAll registry record ds else pure false := by
  induction cs with
  | nil => simp [testAll]
  | cons c cs ih =>
    simp only [List.cons_append, testAll, ih, bind_assoc]
    refine bind_congr fun b => ?_
    cases b <;> simp

/-- A test that does not hold runs in the same way before further conditions. -/
theorem run_test_of_append {ds : List (Condition σ)} (hg : g.conditions = f.conditions ++ ds) {s : σ}
    (h : f.verdict registry s record ≠ .ok true) :
    (g.test registry record).run s = (f.test registry record).run s := by
  rw [test, test, hg, testAll_append, Eval.run_bind]
  change ((testAll registry record f.conditions).run s).1 ≠ .ok true at h
  generalize (testAll registry record f.conditions).run s = answer at h ⊢
  obtain ⟨_ | b, s'⟩ := answer
  · rfl
  · cases b with
    | true => exact absurd rfl h
    | false => rfl

theorem Steady.of_subset (h : f.Steady inv registry) (hg : g.conditions ⊆ f.conditions) :
    g.Steady inv registry := fun c hc => h c (hg hc)

/-- A filter holds where one with more conditions does. -/
theorem Steady.verdict_of_subset (h : f.Steady inv registry) (hg : g.conditions ⊆ f.conditions) {s t : σ}
    (hs : inv s) (ht : inv t) (hf : f.verdict registry s record = .ok true) :
    g.verdict registry t record = .ok true := by
  rw [h.outcome_test record hs hs, settle_eq_go_iff] at hf
  rw [(h.of_subset hg).outcome_test record hs ht, settle_eq_go_iff]
  intro o ho
  obtain ⟨c, hc, rfl⟩ := List.mem_map.mp ho
  exact hf _ (List.mem_map_of_mem (hg hc))

end

/-! ## Collections -/

section
variable {verdict verdict' : Json → Except FilterError Bool}

theorem keptBy_whitelist_sublist (h : ∀ record, verdict record = .ok true → verdict' record = .ok true)
    (rs : List (Json × Nat)) : (keptBy verdict .whitelist rs).Sublist (keptBy verdict' .whitelist rs) := by
  refine List.monotone_filter_right rs fun r hr => ?_
  simp only [Polarity.keeps, beq_iff_eq] at hr ⊢
  exact h r.1 hr

theorem keptBy_blacklist_sublist (h : ∀ record, verdict record = .ok true → verdict' record = .ok true)
    (rs : List (Json × Nat)) : (keptBy verdict' .blacklist rs).Sublist (keptBy verdict .blacklist rs) := by
  refine List.monotone_filter_right rs fun r hr => ?_
  simp only [Polarity.keeps, Bool.not_eq_true', beq_eq_false_iff_ne] at hr ⊢
  exact fun hv => hr (h r.1 hv)

end

variable {registry : Registry σ} {f : Filter σ}

/-- Removals widen what passes a test: where it holds it still does, so that no match gets lost under
whitelisting and none is new under blacklisting. Where a test does not hold, its outcome is the same after
any appending. -/
theorem Steady.conditions_narrow (h : f.Steady inv registry) {s t : σ} (hs : inv s) (ht : inv t) :
    (∀ removals : List (Edit σ), (∀ e ∈ removals, e.IsRemoval) →
      let g := f.edit removals
      (∀ record, f.verdict registry s record = .ok true → g.verdict registry t record = .ok true) ∧
      (∀ records kept kept', ((f.matching registry .whitelist records).run s).1 = .ok kept →
        ((g.matching registry .whitelist records).run t).1 = .ok kept' → kept.Sublist kept') ∧
      (∀ records kept kept', ((f.matching registry .blacklist records).run s).1 = .ok kept →
        ((g.matching registry .blacklist records).run t).1 = .ok kept' → kept'.Sublist kept)) ∧
    (∀ appendings : List (Edit σ), (∀ e ∈ appendings, e.IsAppending) →
      ∀ record, f.verdict registry s record ≠ .ok true →
        (f.edit appendings).verdict registry t record = f.verdict registry s record) := by
  refine ⟨fun removals hremovals => ?_, fun appendings happendings record hrecord => ?_⟩
  · intro g
    have hsubset : g.conditions ⊆ f.conditions := (edit_sublist hremovals f).subset
    have hg : g.Steady inv registry := h.of_subset hsubset
    have hverdict : ∀ record, f.verdict registry s record = .ok true →
        g.verdict registry t record = .ok true := fun record => h.verdict_of_subset hsubset hs ht
    refine ⟨hverdict, fun records kept kept' hk hk' => ?_, fun records kept kept' hk hk' => ?_⟩
    · rw [h.outcome_matching .whitelist hs hs] at hk
      rw [hg.outcome_matching .whitelist ht ht] at hk'
      rw [(verdict_ok_of_matchingBy hk).1, (verdict_ok_of_matchingBy hk').1]
      exact keptBy_whitelist_sublist hverdict records.zipIdx
    · rw [h.outcome_matching .blacklist hs hs] at hk
      rw [hg.outcome_matching .blacklist ht ht] at hk'
      rw [(verdict_ok_of_matchingBy hk).1, (verdict_ok_of_matchingBy hk').1]
      exact keptBy_blacklist_sublist hverdict records.zipIdx
  · have hsame : f.verdict registry t record = f.verdict registry s record :=
      (h.test record).outcome_eq t s ht hs
    have hrun := run_test_of_append (conditions_edit_of_appending happendings f) (hsame ▸ hrecord)
    rw [verdict, hrun]
    exact hsame

/-- Without the second condition one more record passes, and a record that failed the first one is not
tested any further when a condition is appended that would make the test fail. -/
theorem Steady.conditions_narrow_demanding :
    let f : Filter Unit := ⟨[⟨"a", .function demanding, .one (.string "x")⟩,
      ⟨"b", .function demanding, .one (.string "z")⟩]⟩
    let g := f.edit [.remove ⟨some "b", none, none⟩]
    let both : Json := .object [("a", .string "x"), ("b", .string "z")]
    let first : Json := .object [("a", .string "x"), ("b", .string "y")]
    let neither : Json := .object [("a", .string "w"), ("b", .string "w")]
    f.Steady (fun _ => True) .empty ∧
    ((f.matching .empty .whitelist [both, first]).run ()).1 = .ok [(both, 0)] ∧
    ((g.matching .empty .whitelist [both, first]).run ()).1 = .ok [(both, 0), (first, 1)] ∧
    [(both, 0)].Sublist [(both, 0), (first, 1)] ∧
    f.verdict .empty () neither = .ok false ∧
    (f.edit [.add ⟨"c", .function demanding, .one .null⟩]).verdict .empty () neither = .ok false := by
  intro f g both first neither
  have hsteady : f.Steady (fun _ => True) .empty :=
    fun c _ p _ field value => ⟨fun _ _ => trivial, fun _ _ _ _ => rfl⟩
  have hf : ((f.matching .empty .whitelist [both, first]).run ()).1 = .ok [(both, 0)] := rfl
  have hg : ((g.matching .empty .whitelist [both, first]).run ()).1 = .ok [(both, 0), (first, 1)] := rfl
  have hneither : f.verdict .empty () neither = .ok false := rfl
  obtain ⟨hremovals, happendings⟩ := hsteady.conditions_narrow (s := ()) (t := ()) trivial trivial
  have hwhite := (hremovals [.remove ⟨some "b", none, none⟩] (by simp [Edit.IsRemoval])).2.1
  refine ⟨hsteady, hf, hg, hwhite _ _ _ hf hg, hneither, ?_⟩
  have hsame := happendings [.add ⟨"c", .function demanding, .one .null⟩] (by simp [Edit.IsAppending])
    neither (by rw [hneither]; simp)
  exact hsame.trans hneither

end Filter
end Sift
