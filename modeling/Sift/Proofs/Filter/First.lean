import Sift.Proofs.Evaluation.Calls
import Sift.Proofs.Filter.Partition

/-! # The first match

To look for the first match is to test the records up to one that is kept or on which the test fails. What
is found is the first one of all matches, without a call on the records behind it; so the search succeeds
also where matching fails on one of those.
-/
namespace Sift
variable {σ τ ρ : Type} {inv : σ → Prop}

/-- The result of the tests on the records that are not kept. -/
def Polarity.dropped (p : Polarity) : Bool := !p.toBool

theorem Polarity.keeps_eq_false_iff {p : Polarity} {b : Bool} : p.keeps b = false ↔ b = p.dropped := by
  cases p <;> cases b <;> decide

@[simp] theorem Polarity.keeps_dropped (p : Polarity) : p.keeps p.dropped = false :=
  keeps_eq_false_iff.mpr rfl

theorem Polarity.keeps_of_ne {p : Polarity} {b : Bool} (h : b ≠ p.dropped) : p.keeps b = true := by
  rw [← Bool.not_eq_false]
  exact fun hk => h (keeps_eq_false_iff.mp hk)

/-! ## By the verdicts -/

/-- What is found first of numbered records by the verdicts on them. -/
def firstBy (verdict : Json → Except FilterError Bool) (polarity : Polarity) (rs : List (Json × Nat)) :
    Except FilterError (Option (Json × Nat)) :=
  match rs.find? fun r => verdict r.1 != .ok polarity.dropped with
  | some r => (verdict r.1).map fun _ => some r
  | none => .ok none

section
variable {verdict : Json → Except FilterError Bool} {polarity : Polarity} {records : List Json}
  {r : Json × Nat} {rs : List (Json × Nat)}

theorem firstBy_cons_of_eq (h : verdict r.1 = .ok polarity.dropped) (rs : List (Json × Nat)) :
    firstBy verdict polarity (r :: rs) = firstBy verdict polarity rs := by
  simp [firstBy, h]

theorem firstBy_cons_of_ne (h : verdict r.1 ≠ .ok polarity.dropped) (rs : List (Json × Nat)) :
    firstBy verdict polarity (r :: rs) = (verdict r.1).map fun _ => some r := by
  simp [firstBy, bne_iff_ne.mpr h]

/-- If matching succeeds, what is found first is the head of what is kept. -/
theorem firstBy_of_matchingBy {kept : List (Json × Nat)}
    (h : matchingBy verdict polarity records = .ok kept) :
    firstBy verdict polarity records.zipIdx = .ok kept.head? := by
  obtain ⟨rfl, hall⟩ := verdict_ok_of_matchingBy h
  have hok : ∀ r ∈ records.zipIdx, ∃ b, verdict r.1 = .ok b := by
    intro r hr
    exact hall r.1 (List.fst_mem_of_mem_zipIdx hr)
  have hkept : keptBy verdict polarity records.zipIdx =
      records.zipIdx.filter fun r => verdict r.1 != .ok polarity.dropped := by
    refine List.filter_congr fun r hr => ?_
    obtain ⟨b, hb⟩ := hok r hr
    rw [hb]
    cases polarity <;> cases b <;> rfl
  rw [hkept, List.head?_filter, firstBy]
  cases hfind : records.zipIdx.find? fun r => verdict r.1 != .ok polarity.dropped with
  | none => rfl
  | some r =>
    obtain ⟨b, hb⟩ := hok r (List.mem_of_find?_eq_some hfind)
    simp only [hb]
    rfl

/-- An error that the search meets is the first one. -/
theorem firstError?_of_firstBy {e : FilterError} (h : firstBy verdict polarity rs = .error e) :
    firstError? verdict (rs.map Prod.fst) = some e := by
  induction rs with
  | nil => cases h
  | cons r rs ih =>
    rw [List.map_cons]
    by_cases hr : verdict r.1 = .ok polarity.dropped
    · rw [firstBy_cons_of_eq hr] at h
      rw [firstError?_cons_of_ok hr]
      exact ih h
    · rw [firstBy_cons_of_ne hr] at h
      cases hv : verdict r.1 with
      | ok b =>
        rw [hv] at h
        cases h
      | error e' =>
        rw [hv] at h
        cases h
        exact firstError?_cons_of_error hv _

/-- The first numbered member that meets a test: it meets it, and none before it does. -/
theorem find?_zipIdx_eq_some_iff {p : Json → Bool} {record : Json} {i : Nat} :
    (records.zipIdx.find? fun r => p r.1) = some (record, i) ↔
      records[i]? = some record ∧ p record = true ∧ ∀ earlier ∈ records.take i, p earlier = false := by
  rw [List.find?_eq_some_iff_getElem]
  constructor
  · rintro ⟨hp, k, hk, heq, hbefore⟩
    rw [List.length_zipIdx] at hk
    rw [List.getElem_zipIdx, Nat.zero_add] at heq
    obtain ⟨rfl, rfl⟩ := Prod.mk.inj heq
    refine ⟨List.getElem?_eq_getElem hk, hp, fun earlier hmem => ?_⟩
    obtain ⟨j, hj, rfl⟩ := List.mem_take_iff_getElem.mp hmem
    simpa using hbefore j (by omega)
  · rintro ⟨hget, hp, hbefore⟩
    obtain ⟨hi, rfl⟩ := List.getElem?_eq_some_iff.mp hget
    refine ⟨hp, i, by simpa using hi, by simp, fun j hj => ?_⟩
    have hmem : records[j] ∈ records.take i := List.mem_take_iff_getElem.mpr ⟨j, by omega, rfl⟩
    simpa using hbefore _ hmem

theorem exists_dropped_iff {o : Except FilterError Bool} :
    (∃ b, o = .ok b ∧ polarity.keeps b = false) ↔ (o != .ok polarity.dropped) = false := by
  simp [Polarity.keeps_eq_false_iff]

theorem exists_kept_iff {o : Except FilterError Bool} :
    (∃ b, o = .ok b ∧ polarity.keeps b = true) ↔ (o != .ok polarity.dropped) = true ∧ ∃ b, o = .ok b := by
  cases o with
  | error e => simp
  | ok b => cases polarity <;> cases b <;> simp [Polarity.keeps, Polarity.dropped, Polarity.toBool]

/-- A record is found first if it is kept and every record before it is tested without being kept. -/
theorem firstBy_eq_some_iff {record : Json} {i : Nat} :
    firstBy verdict polarity records.zipIdx = .ok (some (record, i)) ↔
      records[i]? = some record ∧ (∃ b, verdict record = .ok b ∧ polarity.keeps b = true) ∧
      ∀ earlier ∈ records.take i, ∃ b, verdict earlier = .ok b ∧ polarity.keeps b = false := by
  have hmap : ∀ r : Json × Nat, ((verdict r.1).map fun _ => some r) = .ok (some (record, i)) ↔
      r = (record, i) ∧ ∃ b, verdict record = .ok b := by
    intro r
    constructor
    · intro h
      cases hv : verdict r.1 with
      | error e =>
        rw [hv] at h
        cases h
      | ok b =>
        rw [hv] at h
        cases h
        exact ⟨rfl, b, hv⟩
    · rintro ⟨rfl, b, hb⟩
      rw [hb]
      rfl
  have hfound : firstBy verdict polarity records.zipIdx = .ok (some (record, i)) ↔
      (records.zipIdx.find? fun r => verdict r.1 != .ok polarity.dropped) = some (record, i) ∧
        ∃ b, verdict record = .ok b := by
    unfold firstBy
    cases records.zipIdx.find? fun r => verdict r.1 != .ok polarity.dropped with
    | none => simp
    | some r => simp only [hmap, Option.some.injEq]
  simp only [hfound, exists_kept_iff, exists_dropped_iff,
    find?_zipIdx_eq_some_iff (p := fun record => verdict record != .ok polarity.dropped)]
  tauto

end

namespace Filter
variable {registry : Registry σ} {f : Filter σ}

theorem Steady.keepFirst (h : f.Steady inv registry) (polarity : Polarity) (rs : List (Json × Nat)) :
    Eval.Steady inv (f.keepFirst registry polarity rs) := by
  induction rs with
  | nil => exact Eval.steady_pure none
  | cons r rs ih =>
    refine (h.test r.1).bind fun passed => ?_
    cases polarity.keeps passed with
    | true => exact Eval.steady_pure (some r)
    | false => exact ih

theorem Steady.outcome_keepFirst (h : f.Steady inv registry) (polarity : Polarity) {s t : σ} (hs : inv s)
    (ht : inv t) (rs : List (Json × Nat)) :
    ((f.keepFirst registry polarity rs).run t).1 = firstBy (f.verdict registry s) polarity rs := by
  induction rs with
  | nil => rfl
  | cons r rs ih =>
    have hrest : ∀ passed, Eval.Steady inv
        (if polarity.keeps passed then pure (some r) else f.keepFirst registry polarity rs) := by
      intro passed
      split
      · exact Eval.steady_pure (some r)
      · exact h.keepFirst polarity rs
    have htest : ((f.test registry r.1).run t).1 = f.verdict registry s r.1 :=
      (h.test r.1).outcome_eq t s ht hs
    rw [Filter.keepFirst, (h.test r.1).outcome_bind hrest ht ht, htest]
    by_cases hr : f.verdict registry s r.1 = .ok polarity.dropped
    · rw [firstBy_cons_of_eq hr, hr, ← ih]
      simp only [Except.bind, Polarity.keeps_dropped]
      rfl
    · rw [firstBy_cons_of_ne hr]
      cases hv : f.verdict registry s r.1 with
      | error e => rfl
      | ok b =>
        have hkeep : polarity.keeps b = true := Polarity.keeps_of_ne fun hb => hr (by rw [hv, hb])
        simp only [Except.bind, hkeep]
        rfl

theorem Steady.outcome_first (h : f.Steady inv registry) (polarity : Polarity) {s t : σ} (hs : inv s)
    (ht : inv t) (records : List Json) :
    ((f.first registry polarity records).run t).1 =
      firstBy (f.verdict registry s) polarity records.zipIdx :=
  h.outcome_keepFirst polarity hs ht records.zipIdx

end Filter

/-! ## Its calls -/

theorem Trial.row_take {α : Type} (attempt : α → σ → Trial σ) (as : List α) (n : Nat) (s : σ) :
    (row attempt as s).take n = row attempt (as.take n) s := by
  induction as generalizing n s with
  | nil => simp [row]
  | cons a as ih =>
    cases n with
    | zero => rfl
    | succ n => simp only [row, List.take_succ_cons, ih]

theorem Trial.row_map {α β : Type} (attempt : β → σ → Trial σ) (g : α → β) (as : List α) (s : σ) :
    row attempt (as.map g) s = row (fun a => attempt (g a)) as s := by
  induction as generalizing s with
  | nil => rfl
  | cons a as ih => simp only [row, List.map_cons, ih]

/-- A search in the larger state goes like the lazy row of the tests on the records, and what it finds is
the record at which that row ends. -/
theorem Observation.run_keepFirst (o : Observation σ τ ρ) (registry : Registry σ) (f : Filter σ)
    (polarity : Polarity) (rs : List (Json × Nat)) (s : σ) (t : τ) :
    let trials := Trial.row (fun r : Json × Nat => f.trial registry r.1) rs s
    let lazy := Trial.lazily polarity.dropped s trials
    ((f.map o.lift).keepFirst (registry.map o.lift) polarity rs).run (o.embed s t) =
      (lazy.outcome.map fun _ => rs[trials.findIdx (·.outcome != .ok polarity.dropped)]?,
        o.embed lazy.after (lazy.calls.foldl o.note t)) := by
  induction rs generalizing s t with
  | nil => rfl
  | cons r rs ih =>
    simp only [Filter.keepFirst, Eval.run_bind, o.follows_test registry f r.1 s t, Trial.row]
    by_cases hr : (f.trial registry r.1 s).outcome = .ok polarity.dropped
    · rw [Trial.lazily_cons_of_eq hr, hr]
      simp [ih, List.findIdx_cons, hr]
    · have hne : ((f.trial registry r.1 s).outcome != .ok polarity.dropped) = true := bne_iff_ne.mpr hr
      rw [Trial.lazily_cons_of_ne hr, List.findIdx_cons, hne]
      cases ho : (f.trial registry r.1 s).outcome with
      | error e => rfl
      | ok b =>
        have hkeep : polarity.keeps b = true := Polarity.keeps_of_ne fun hb => hr (by rw [ho, hb])
        simp only [hkeep]
        rfl

/-- A search in the larger state of an observer, who notes the calls of all its predicates. -/
def Filter.firstNoting (note : τ → Call σ → τ) (f : Filter σ) (registry : Registry σ)
    (polarity : Polarity) (records : List Json) : Eval (σ × τ) (Option (Json × Nat)) :=
  let o := Observation.noting note
  (f.map o.lift).first (registry.map o.lift) polarity records

namespace Filter
variable {registry : Registry σ} {f : Filter σ} {polarity : Polarity} {records : List Json}

/-- A search that finds a record makes the calls of the tests up to this record, and no others. -/
theorem run_firstNoting_of_found {record : Json} {i : Nat} {s : σ}
    (h : ((f.first registry polarity records).run s).1 = .ok (some (record, i)))
    (note : τ → Call σ → τ) (t : τ) :
    (f.firstNoting note registry polarity records).run (s, t) =
      (.ok (some (record, i)), ((f.first registry polarity records).run s).2,
        ((Trial.row (f.trial registry) (records.take (i + 1)) s).flatMap Trial.calls).foldl note t) := by
  have hplain := Observation.plain.run_keepFirst registry f polarity records.zipIdx s ()
  simp only [Observation.plain, Filter.map_id, Registry.map_id] at hplain
  have hnoting := (Observation.noting note).run_keepFirst registry f polarity records.zipIdx s t
  rw [first, hplain] at h
  rw [first, hplain]
  refine hnoting.trans ?_
  simp only at h ⊢
  rw [h]
  set trials := Trial.row (fun r : Json × Nat => f.trial registry r.1) records.zipIdx s with htrials
  have hindex : trials.findIdx (·.outcome != .ok polarity.dropped) = i := by
    cases ho : (Trial.lazily polarity.dropped s trials).outcome with
    | error e =>
      rw [ho] at h
      cases h
    | ok b =>
      rw [ho] at h
      have hget := Except.ok.inj h
      rw [List.getElem?_zipIdx] at hget
      obtain ⟨_, _, heq⟩ := Option.map_eq_some_iff.mp hget
      simpa using congrArg Prod.snd heq
  have hcalls : (Trial.lazily polarity.dropped s trials).calls =
      (Trial.row (f.trial registry) (records.take (i + 1)) s).flatMap Trial.calls := by
    simp only [Trial.lazily, Trial.upTo, hindex]
    rw [htrials, Trial.row_take, ← Trial.row_map, List.map_take, List.zipIdx_map_fst]
  rw [hcalls]
  rfl

/-- The search finds the head of what matching keeps. An error of the search is that of matching; and a
record is found at a position exactly if it is kept there and every record before it is tested without being
kept. Then no predicate is called for a record behind it, so an error on one of those is an error of
matching only. -/
theorem Steady.first_lazy_head (h : f.Steady inv registry) {s m u : σ} (hs : inv s) (hm : inv m)
    (hu : inv u) (polarity : Polarity) (records : List Json) :
    let verdict := f.verdict registry s
    let matched := ((f.matching registry polarity records).run m).1
    let found := ((f.first registry polarity records).run u).1
    (∀ kept, matched = .ok kept → found = .ok kept.head?) ∧
    (∀ e, found = .error e → matched = .error e) ∧
    (∀ record i, found = .ok (some (record, i)) ↔
      records[i]? = some record ∧ (∃ b, verdict record = .ok b ∧ polarity.keeps b = true) ∧
      ∀ earlier ∈ records.take i, ∃ b, verdict earlier = .ok b ∧ polarity.keeps b = false) ∧
    (∀ record i, found = .ok (some (record, i)) →
      (∀ (τ : Type) (note : τ → Call σ → τ) (t : τ),
        (f.firstNoting note registry polarity records).run (u, t) =
          (found, ((f.first registry polarity records).run u).2,
            ((Trial.row (f.trial registry) (records.take (i + 1)) u).flatMap Trial.calls).foldl note t)) ∧
      ∀ (j : Nat) (later : Json), i < j → records[j]? = some later →
        (∃ e, verdict later = .error e) → ∃ e, matched = .error e) := by
  intro verdict matched found
  have hmatched : matched = matchingBy verdict polarity records := h.outcome_matching polarity hs hm records
  have hfound : found = firstBy verdict polarity records.zipIdx := h.outcome_first polarity hs hu records
  refine ⟨fun kept hkept => ?_, fun e he => ?_, fun record i => ?_, fun record i hat => ⟨?_, ?_⟩⟩
  · rw [hmatched] at hkept
    rw [hfound]
    exact firstBy_of_matchingBy hkept
  · rw [hfound] at he
    have hfirst := firstError?_of_firstBy he
    rw [List.zipIdx_map_fst] at hfirst
    rw [hmatched]
    exact matchingBy_eq_error_iff.mpr hfirst
  · rw [hfound]
    exact firstBy_eq_some_iff
  · intro τ note t
    rw [hat]
    exact run_firstNoting_of_found hat note t
  · intro j later _ hlater herror
    obtain ⟨e, he⟩ := (exists_firstError?_iff verdict records).mpr
      ⟨later, List.mem_of_getElem? hlater, herror⟩
    exact ⟨e, hmatched.trans (matchingBy_eq_error_iff.mpr he)⟩

/-- Strict equality that counts its calls, and fails where there is no field. -/
def demandingCounter : Predicate Nat where
  id := 0
  call field value := do
    modify (· + 1)
    match field with
    | some x => pure (x.strictEq value)
    | none => throw (.predicateFailed "demanding" "missing field")

/-- The second record is found after two calls; the third one makes matching fail. -/
theorem Steady.first_lazy_head_demanding :
    let f : Filter Nat := ⟨[⟨"a", .function demandingCounter, .one (.string "y")⟩]⟩
    let other : Json := .object [("a", .string "x")]
    let wanted : Json := .object [("a", .string "y")]
    let records : List Json := [other, wanted, .object []]
    f.Steady (fun _ => True) .empty ∧
    f.verdict .empty 0 other = .ok false ∧ f.verdict .empty 0 wanted = .ok true ∧
    ((f.first .empty .whitelist records).run 0).1 = .ok (some (wanted, 1)) ∧
    ((f.firstNoting tally .empty .whitelist records).run (0, fun _ => 0)).2.2 0 = 2 ∧
    ∃ e, ((f.matching .empty .whitelist records).run 0).1 = .error e := by
  intro f other wanted records
  have hsteady : f.Steady (fun _ => True) .empty := by
    intro c hc p hp field value
    obtain rfl := List.mem_singleton.mp hc
    obtain rfl := Option.some.inj hp
    cases field <;> exact ⟨fun _ _ => trivial, fun _ _ _ _ => rfl⟩
  have hother : f.verdict .empty 0 other = .ok false := rfl
  have hwanted : f.verdict .empty 0 wanted = .ok true := rfl
  obtain ⟨-, -, hiff, hat⟩ := hsteady.first_lazy_head (s := 0) (m := 0) (u := 0) trivial trivial trivial
    .whitelist records
  have hfound := (hiff wanted 1).mpr ⟨rfl, ⟨true, hwanted, rfl⟩, fun earlier hearlier => by
    obtain rfl := List.mem_singleton.mp hearlier
    exact ⟨false, hother, rfl⟩⟩
  obtain ⟨hcalls, herror⟩ := hat wanted 1 hfound
  refine ⟨hsteady, hother, hwanted, hfound, ?_, herror 2 (.object []) (by decide) rfl ⟨_, rfl⟩⟩
  rw [hcalls (Nat → Nat) tally]
  rfl

end Filter
end Sift
