import Mathlib.Data.List.Forall2
import Sift.Proofs.Filter.Settled

/-! # Rearranged filters

The order of conditions and of candidates decides which predicates are called and which error is met
first. It does not decide between the verdicts: whatever the order, a lazy row of steady outcomes that is
settled without an error is settled in the same way, because one verdict needs all outcomes of the row and
the other one needs a single outcome that is not among those.
-/
namespace Sift
variable {σ : Type} {inv : σ → Prop}

/-! ## Rows that agree -/

section Rows
variable {go : Bool} {os os' : List (Except FilterError Bool)}

/-- Not opposite verdicts. -/
def Agree (o o' : Except FilterError Bool) : Prop := ∀ a b, o = .ok a → o' = .ok b → a = b

theorem Agree.refl (o : Except FilterError Bool) : Agree o o :=
  fun _ _ ha hb => Except.ok.inj (ha.symm.trans hb)

theorem Agree.symm {o o' : Except FilterError Bool} (h : Agree o o') : Agree o' o :=
  fun a b ha hb => (h b a hb ha).symm

theorem Agree.map {o o' : Except FilterError Bool} (h : Agree o o') (f : Bool → Bool) :
    Agree (o.map f) (o'.map f) := by
  intro a b ha hb
  cases o with
  | error e => cases ha
  | ok x =>
    cases o' with
    | error e => cases hb
    | ok y =>
      obtain rfl : f x = a := Except.ok.inj ha
      obtain rfl : f y = b := Except.ok.inj hb
      rw [h x y rfl rfl]

/-- A row that goes on to its end rules out that the other one is ended by a verdict. -/
theorem eq_go_of_settle_eq_go {b : Bool} (h : ∀ o' ∈ os', ∃ o ∈ os, Agree o o')
    (hos : settle go os = .ok go) (hos' : settle go os' = .ok b) : b = go := by
  by_cases hgo : settle go os' = .ok go
  · exact Except.ok.inj (hos'.symm.trans hgo)
  · have hb : .ok b ∈ os' := hos' ▸ settle_mem hgo
    obtain ⟨o, ho, hagree⟩ := h _ hb
    exact (hagree go b (settle_eq_go_iff.mp hos o ho) rfl).symm

/-- Rows whose outcomes agree, in whatever order and number, come to outcomes that agree. -/
theorem Agree.settle (h : ∀ o ∈ os, ∃ o' ∈ os', Agree o o') (h' : ∀ o' ∈ os', ∃ o ∈ os, Agree o o')
    (go : Bool) : Agree (settle go os) (settle go os') := by
  have hback : ∀ o ∈ os, ∃ o' ∈ os', Agree o' o := by
    intro o ho
    obtain ⟨o', ho', hagree⟩ := h o ho
    exact ⟨o', ho', hagree.symm⟩
  intro a b ha hb
  by_cases hgo : a = go
  · exact hgo.trans (eq_go_of_settle_eq_go h' (hgo ▸ ha) hb).symm
  · by_contra hne
    -- Of two verdicts that differ, one is `go`.
    obtain rfl : b = go := by
      cases a <;> cases b <;> cases go <;> simp_all
    exact hne (eq_go_of_settle_eq_go hback hb ha)

end Rows

/-! ## Unfailing conditions -/

/-- No candidate makes the predicate of a condition fail on a record. -/
def Condition.Unfailing (registry : Registry σ) (s : σ) (record : Json) (c : Condition σ) : Prop :=
  ∀ p, (c.operator.reading registry).1 = some p → ∀ v ∈ c.value.candidates,
    ∃ b, ((p.call (record.resolve c.field).value? v).run s).1 = .ok b

theorem Condition.Unfailing.exists_verdict {registry : Registry σ} {s : σ} {record : Json}
    {c : Condition σ} (h : c.Unfailing registry s record) : ∃ b, c.verdict registry s record = .ok b := by
  unfold Condition.Unfailing at h
  unfold Condition.verdict
  generalize c.operator.reading registry = reading at h ⊢
  rcases reading with ⟨_ | p, negated⟩
  · exact ⟨negated, rfl⟩
  · have hrow : ∃ b, settle false (c.value.candidates.map fun v =>
        ((p.call (record.resolve c.field).value? v).run s).1) = .ok b := by
      refine exists_settle_eq_ok (fun o ho => ?_) false
      obtain ⟨v, hv, rfl⟩ := List.mem_map.mp ho
      exact h p rfl v hv
    obtain ⟨b, hb⟩ := hrow
    exact ⟨b != negated, congrArg (Except.map (· != negated)) hb⟩

namespace Filter

/-- No candidate makes the predicate of its condition fail on a record. -/
def Unfailing (registry : Registry σ) (s : σ) (record : Json) (f : Filter σ) : Prop :=
  ∀ c ∈ f.conditions, c.Unfailing registry s record

theorem Steady.exists_verdict {registry : Registry σ} {f : Filter σ} (hf : f.Steady inv registry)
    {s t : σ} (hs : inv s) (ht : inv t) {record : Json} (h : f.Unfailing registry s record) :
    ∃ b, f.verdict registry t record = .ok b := by
  rw [hf.outcome_test record hs ht]
  refine exists_settle_eq_ok (fun o ho => ?_) true
  obtain ⟨c, hc, rfl⟩ := List.mem_map.mp ho
  exact (h c hc).exists_verdict

end Filter

/-! ## Rearrangements -/

/-- Two conditions that differ in the order of their candidates at most. -/
structure Condition.Rearranged (c d : Condition σ) : Prop where
  field_eq : c.field = d.field
  operator_eq : c.operator = d.operator
  candidates_perm : c.value.candidates.Perm d.value.candidates

/-- Two filters that differ in the order of their conditions, and of the candidates of these, at most. -/
def Filter.Rearranged (f g : Filter σ) : Prop :=
  ∃ cs, f.conditions.Perm cs ∧ List.Forall₂ Condition.Rearranged cs g.conditions

variable {registry : Registry σ}

theorem Condition.Rearranged.agree {c d : Condition σ} (h : c.Rearranged d) (s : σ) (record : Json) :
    Agree (c.verdict registry s record) (d.verdict registry s record) := by
  unfold Condition.verdict
  rw [h.field_eq, h.operator_eq]
  rcases d.operator.reading registry with ⟨_ | p, negated⟩
  · exact Agree.refl _
  · have hperm := h.candidates_perm.map fun v => ((p.call (record.resolve d.field).value? v).run s).1
    refine (Agree.settle ?_ ?_ false).map _
    · exact fun o ho => ⟨o, hperm.mem_iff.mp ho, Agree.refl o⟩
    · exact fun o ho => ⟨o, hperm.mem_iff.mpr ho, Agree.refl o⟩

theorem exists_of_forall₂ {α β : Type} {R : α → β → Prop} {as : List α} {bs : List β}
    (h : List.Forall₂ R as bs) {a : α} (ha : a ∈ as) : ∃ b ∈ bs, R a b := by
  induction h with
  | nil => cases ha
  | cons hab _ ih =>
    rcases List.mem_cons.mp ha with rfl | ha
    · exact ⟨_, List.mem_cons_self, hab⟩
    · obtain ⟨b, hb, hab⟩ := ih ha
      exact ⟨b, List.mem_cons_of_mem _ hb, hab⟩

namespace Filter.Rearranged
variable {f g : Filter σ}

theorem exists_right (h : f.Rearranged g) {c : Condition σ} (hc : c ∈ f.conditions) :
    ∃ d ∈ g.conditions, c.Rearranged d := by
  obtain ⟨cs, hperm, hall⟩ := h
  exact exists_of_forall₂ hall (hperm.mem_iff.mp hc)

theorem exists_left (h : f.Rearranged g) {d : Condition σ} (hd : d ∈ g.conditions) :
    ∃ c ∈ f.conditions, c.Rearranged d := by
  obtain ⟨cs, hperm, hall⟩ := h
  obtain ⟨c, hc, hcd⟩ := exists_of_forall₂ hall.flip hd
  exact ⟨c, hperm.mem_iff.mpr hc, hcd⟩

theorem steady (h : f.Rearranged g) (hf : f.Steady inv registry) : g.Steady inv registry := by
  intro d hd
  obtain ⟨c, hc, hcd⟩ := h.exists_left hd
  rw [← hcd.operator_eq]
  exact hf c hc

theorem unfailing (h : f.Rearranged g) {s : σ} {record : Json} (hf : f.Unfailing registry s record) :
    g.Unfailing registry s record := by
  intro d hd p hp v hv
  obtain ⟨c, hc, hcd⟩ := h.exists_left hd
  rw [← hcd.field_eq]
  rw [← hcd.operator_eq] at hp
  exact hf c hc p hp v (hcd.candidates_perm.mem_iff.mpr hv)

theorem agree (h : f.Rearranged g) (hf : f.Steady inv registry) {s t : σ} (hs : inv s) (ht : inv t)
    (record : Json) : Agree (f.verdict registry s record) (g.verdict registry t record) := by
  rw [hf.outcome_test record hs hs, (h.steady hf).outcome_test record hs ht]
  refine Agree.settle ?_ ?_ true
  · intro o ho
    obtain ⟨c, hc, rfl⟩ := List.mem_map.mp ho
    obtain ⟨d, hd, hcd⟩ := h.exists_right hc
    exact ⟨_, List.mem_map_of_mem hd, hcd.agree s record⟩
  · intro o ho
    obtain ⟨d, hd, rfl⟩ := List.mem_map.mp ho
    obtain ⟨c, hc, hcd⟩ := h.exists_left hd
    exact ⟨_, List.mem_map_of_mem hc, hcd.agree s record⟩

end Filter.Rearranged

namespace Filter
variable {f g : Filter σ}

theorem keptBy_congr {verdict verdict' : Json → Except FilterError Bool} {records : List Json}
    (h : ∀ record ∈ records, verdict record = verdict' record) (polarity : Polarity) :
    keptBy verdict polarity records.zipIdx = keptBy verdict' polarity records.zipIdx := by
  refine List.filter_congr fun r hr => ?_
  have hmem : r.1 ∈ records := by
    rw [← List.zipIdx_map_fst 0 records]
    exact List.mem_map_of_mem hr
  rw [h r.1 hmem]

/-- Whatever the order of the conditions and of their candidates, a record never gets opposite verdicts; it
gets one in every order if no candidate makes its predicate fail; and collections of which a result is
kept in both orders keep the same records. -/
theorem Rearranged.never_flips (h : f.Rearranged g) (hf : f.Steady inv registry) {s t : σ} (hs : inv s)
    (ht : inv t) :
    (∀ record a b, f.verdict registry s record = .ok a → g.verdict registry t record = .ok b → a = b) ∧
    (∀ record, f.Unfailing registry s record →
      ∃ b, f.verdict registry s record = .ok b ∧ g.verdict registry t record = .ok b) ∧
    (∀ polarity records kept kept', ((f.matching registry polarity records).run s).1 = .ok kept →
      ((g.matching registry polarity records).run t).1 = .ok kept' → kept = kept') := by
  have hg := h.steady hf
  have hagree := h.agree hf hs ht
  refine ⟨hagree, fun record hunfailing => ?_, fun polarity records kept kept' hk hk' => ?_⟩
  · obtain ⟨a, ha⟩ := hf.exists_verdict hs hs hunfailing
    obtain ⟨b, hb⟩ := hg.exists_verdict hs ht (h.unfailing hunfailing)
    obtain rfl := hagree record a b ha hb
    exact ⟨a, ha, hb⟩
  · rw [hf.outcome_matching polarity hs hs] at hk
    rw [hg.outcome_matching polarity ht ht] at hk'
    obtain ⟨rfl, hall⟩ := verdict_ok_of_matchingBy hk
    obtain ⟨rfl, hall'⟩ := verdict_ok_of_matchingBy hk'
    refine keptBy_congr (fun record hr => ?_) polarity
    obtain ⟨a, ha⟩ := hall record hr
    obtain ⟨b, hb⟩ := hall' record hr
    rw [ha, hb, hagree record a b ha hb]

/-- Strict equality that fails where there is no field. -/
def demanding : Predicate Unit where
  id := 0
  call field value := match field with
    | some x => pure (Json.strictEq x value)
    | none => throw (.predicateFailed "demanding" "missing field")

/-- A record without the second field fails the test in one order and makes it fail in the other one; a
record with both fields gets the same verdict in both orders. -/
theorem Rearranged.never_flips_demanding :
    let f : Filter Unit := ⟨[⟨"a", .function demanding, .any [.string "x", .string "y"]⟩,
      ⟨"b", .function demanding, .one (.string "z")⟩]⟩
    let g : Filter Unit := ⟨[⟨"b", .function demanding, .any [.string "z"]⟩,
      ⟨"a", .function demanding, .any [.string "y", .string "x"]⟩]⟩
    let half : Json := .object [("a", .string "w")]
    let full : Json := .object [("a", .string "y"), ("b", .string "z")]
    f.Rearranged g ∧ f.Steady (fun _ => True) .empty ∧
    f.verdict .empty () half = .ok false ∧
    g.verdict .empty () half = .error (.predicateFailed "demanding" "missing field") ∧
    f.Unfailing .empty () full ∧ f.verdict .empty () full = .ok true ∧
    g.verdict .empty () full = .ok true ∧
    ((g.matching .empty .whitelist [full]).run ()).1 = .ok [(full, 0)] := by
  intro f g half full
  have hrearranged : f.Rearranged g :=
    ⟨_, .swap _ _ [], .cons ⟨rfl, rfl, .refl _⟩ (.cons ⟨rfl, rfl, .swap _ _ []⟩ .nil)⟩
  have hsteady : f.Steady (fun _ => True) .empty :=
    fun c _ p _ field value => ⟨fun _ _ => trivial, fun _ _ _ _ => rfl⟩
  have hunfailing : f.Unfailing .empty () full := by
    intro c hc p hp v _
    rcases List.mem_cons.mp hc with rfl | hc
    · obtain rfl := Option.some.inj hp
      exact ⟨_, rfl⟩
    · obtain rfl := List.mem_singleton.mp hc
      obtain rfl := Option.some.inj hp
      exact ⟨_, rfl⟩
  have hfull : f.verdict .empty () full = .ok true := rfl
  have hkept : ((f.matching .empty .whitelist [full]).run ()).1 = .ok [(full, 0)] := rfl
  obtain ⟨-, hverdict, hmatching⟩ := hrearranged.never_flips hsteady trivial trivial
  obtain ⟨b, hb, hb'⟩ := hverdict full hunfailing
  obtain rfl := Except.ok.inj (hfull.symm.trans hb)
  refine ⟨hrearranged, hsteady, rfl, rfl, hunfailing, hfull, hb', ?_⟩
  cases hg : ((g.matching .empty .whitelist [full]).run ()).1 with
  | error e => cases hg
  | ok kept => rw [hmatching .whitelist [full] _ _ hkept hg]

end Filter
end Sift
