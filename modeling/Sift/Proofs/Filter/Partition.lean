import Mathlib.Control.Monad.Basic
import Sift.Pattern.Words
import Sift.Proofs.Builtin.Steady

/-! # Keeping and dropping

Under the two polarities a steady filter splits a list of records in two, each part with its records in
their order and at their own positions. If a test fails on a record, nothing is kept under either polarity,
and the failure is that of the first such record.
-/
namespace Sift
variable {σ : Type} {inv : σ → Prop}

/-- The error of the first record on which a test fails. -/
def firstError? (verdict : Json → Except FilterError Bool) (records : List Json) : Option FilterError :=
  records.findSome? fun record => match verdict record with
    | .error e => some e
    | .ok _ => none

theorem firstError?_cons_of_error {verdict : Json → Except FilterError Bool} {record : Json}
    {e : FilterError} (h : verdict record = .error e) (records : List Json) :
    firstError? verdict (record :: records) = some e := by
  simp [firstError?, h]

theorem firstError?_cons_of_ok {verdict : Json → Except FilterError Bool} {record : Json} {passed : Bool}
    (h : verdict record = .ok passed) (records : List Json) :
    firstError? verdict (record :: records) = firstError? verdict records := by
  simp [firstError?, h]

theorem exists_firstError?_iff (verdict : Json → Except FilterError Bool) (records : List Json) :
    (∃ e, firstError? verdict records = some e) ↔ ∃ record ∈ records, ∃ e, verdict record = .error e := by
  induction records with
  | nil => simp [firstError?]
  | cons record records ih =>
    cases h : verdict record with
    | error e => simp [firstError?_cons_of_error h, h]
    | ok passed => simp [firstError?_cons_of_ok h, h, ih]

/-- What is kept of numbered records by the verdicts on them, if none of these is an error. -/
def keptBy (verdict : Json → Except FilterError Bool) (polarity : Polarity) (rs : List (Json × Nat)) :
    List (Json × Nat) :=
  rs.filter fun r => polarity.keeps (verdict r.1 == .ok true)

/-- The outcome of matching by the verdicts on the records. -/
def matchingBy (verdict : Json → Except FilterError Bool) (polarity : Polarity) (records : List Json) :
    Except FilterError (List (Json × Nat)) :=
  match firstError? verdict records with
  | some e => .error e
  | none => .ok (keptBy verdict polarity records.zipIdx)

theorem matchingBy_eq_error_iff {verdict : Json → Except FilterError Bool} {polarity : Polarity}
    {records : List Json} {e : FilterError} :
    matchingBy verdict polarity records = .error e ↔ firstError? verdict records = some e := by
  unfold matchingBy
  cases firstError? verdict records <;> simp

theorem matchingBy_of_firstError?_eq_none {verdict : Json → Except FilterError Bool}
    {records : List Json} (h : firstError? verdict records = none) (polarity : Polarity) :
    matchingBy verdict polarity records = .ok (keptBy verdict polarity records.zipIdx) := by
  simp only [matchingBy, h]

theorem verdict_ok_of_matchingBy {verdict : Json → Except FilterError Bool} {polarity : Polarity}
    {records : List Json} {kept : List (Json × Nat)}
    (h : matchingBy verdict polarity records = .ok kept) :
    kept = keptBy verdict polarity records.zipIdx ∧
      ∀ record ∈ records, ∃ b, verdict record = .ok b := by
  cases hfirst : firstError? verdict records with
  | some e =>
    rw [matchingBy_eq_error_iff.mpr hfirst] at h
    cases h
  | none =>
    rw [matchingBy_of_firstError?_eq_none hfirst] at h
    refine ⟨(Except.ok.inj h).symm, fun record hr => ?_⟩
    cases hv : verdict record with
    | ok b => exact ⟨b, rfl⟩
    | error e =>
      obtain ⟨e', he'⟩ := (exists_firstError?_iff verdict records).mpr ⟨record, hr, e, hv⟩
      rw [hfirst] at he'
      cases he'

namespace Filter
variable {registry : Registry σ} {f : Filter σ}

/-- The outcome of a test in a state. -/
def verdict (f : Filter σ) (registry : Registry σ) (s : σ) (record : Json) : Except FilterError Bool :=
  ((f.test registry record).run s).1

theorem Steady.keepAll (h : f.Steady inv registry) (polarity : Polarity) (rs : List (Json × Nat)) :
    Eval.Steady inv (f.keepAll registry polarity rs) := by
  induction rs with
  | nil => exact Eval.steady_pure []
  | cons r rs ih => exact (h.test r.1).bind fun _ => ih.bind fun _ => Eval.steady_pure _

/-- Keeping records fails with the first error, and else keeps them by their verdicts. -/
theorem Steady.outcome_keepAll (h : f.Steady inv registry) (polarity : Polarity) {s t : σ} (hs : inv s)
    (ht : inv t) (rs : List (Json × Nat)) :
    ((f.keepAll registry polarity rs).run t).1 =
      match firstError? (f.verdict registry s) (rs.map Prod.fst) with
      | some e => .error e
      | none => .ok (keptBy (f.verdict registry s) polarity rs) := by
  induction rs with
  | nil => rfl
  | cons r rs ih =>
    have hrest := fun passed => (h.keepAll polarity rs).bind fun kept =>
      Eval.steady_pure (if polarity.keeps passed then r :: kept else kept)
    have htest : ((f.test registry r.1).run t).1 = f.verdict registry s r.1 :=
      (h.test r.1).outcome_eq t s ht hs
    rw [Filter.keepAll, (h.test r.1).outcome_bind hrest ht ht, htest, List.map_cons]
    cases hv : f.verdict registry s r.1 with
    | error e =>
      rw [firstError?_cons_of_error hv]
      rfl
    | ok passed =>
      rw [firstError?_cons_of_ok hv]
      change (((f.keepAll registry polarity rs) >>= fun kept => _).run t).1 = _
      rw [(h.keepAll polarity rs).outcome_bind (fun _ => Eval.steady_pure _) ht ht, ih]
      cases firstError? (f.verdict registry s) (rs.map Prod.fst) with
      | some e => rfl
      | none =>
        have hkeeps : (f.verdict registry s r.1 == .ok true) = passed := by
          rw [hv]
          cases passed <;> rfl
        simp only [keptBy, List.filter_cons, hkeeps]
        rfl

/-- Matching fails with the first error, and else keeps the records by their verdicts. -/
theorem Steady.outcome_matching (h : f.Steady inv registry) (polarity : Polarity) {s t : σ} (hs : inv s)
    (ht : inv t) (records : List Json) :
    ((f.matching registry polarity records).run t).1 =
      matchingBy (f.verdict registry s) polarity records := by
  rw [Filter.matching, h.outcome_keepAll polarity hs ht, List.zipIdx_map_fst, matchingBy]

end Filter

/-- Two lists of numbered records that have all positions between them, each position in one of the two,
and each list in the order of the positions. -/
structure IsPartition (records : List Json) (kept dropped : List (Json × Nat)) : Prop where
  kept_sublist : kept.Sublist records.zipIdx
  dropped_sublist : dropped.Sublist records.zipIdx
  kept_increasing : (kept.map Prod.snd).Pairwise (· < ·)
  dropped_increasing : (dropped.map Prod.snd).Pairwise (· < ·)
  disjoint : ∀ i ∈ kept.map Prod.snd, i ∉ dropped.map Prod.snd
  cover : ∀ i, i < records.length ↔ i ∈ kept.map Prod.snd ∨ i ∈ dropped.map Prod.snd

theorem pairwise_lt_of_sublist_zipIdx {records : List Json} {rs : List (Json × Nat)}
    (h : rs.Sublist records.zipIdx) : (rs.map Prod.snd).Pairwise (· < ·) := by
  have hall : (records.zipIdx.map Prod.snd).Pairwise (· < ·) := by
    rw [List.zipIdx_map_snd]
    exact List.pairwise_lt_range'
  exact hall.sublist (h.map Prod.snd)

theorem mem_positions_keptBy {verdict : Json → Except FilterError Bool} {polarity : Polarity}
    {records : List Json} {i : Nat} :
    i ∈ (keptBy verdict polarity records.zipIdx).map Prod.snd ↔
      ∃ record, records[i]? = some record ∧ polarity.keeps (verdict record == .ok true) = true := by
  simp only [keptBy, List.mem_map, List.mem_filter, Prod.exists, exists_eq_right,
    List.mk_mem_zipIdx_iff_getElem?]

theorem isPartition_keptBy (verdict : Json → Except FilterError Bool) (records : List Json) :
    IsPartition records (keptBy verdict .whitelist records.zipIdx)
      (keptBy verdict .blacklist records.zipIdx) := by
  have hwhite : (keptBy verdict .whitelist records.zipIdx).Sublist records.zipIdx := List.filter_sublist
  have hblack : (keptBy verdict .blacklist records.zipIdx).Sublist records.zipIdx := List.filter_sublist
  refine ⟨hwhite, hblack, pairwise_lt_of_sublist_zipIdx hwhite,
    pairwise_lt_of_sublist_zipIdx hblack, ?_, ?_⟩
  · intro i hi hi'
    obtain ⟨record, hr, hk⟩ := mem_positions_keptBy.mp hi
    obtain ⟨record', hr', hk'⟩ := mem_positions_keptBy.mp hi'
    obtain rfl := Option.some.inj (hr.symm.trans hr')
    have hpassed : verdict record = .ok true := by simpa [Polarity.keeps] using hk
    have hfailed : verdict record ≠ .ok true := by simpa [Polarity.keeps] using hk'
    exact hfailed hpassed
  · intro i
    rw [mem_positions_keptBy, mem_positions_keptBy, ← exists_or]
    constructor
    · intro hi
      refine ⟨records[i], ?_⟩
      simp [hi, Polarity.keeps, em]
    · rintro ⟨record, ⟨hr, -⟩ | ⟨hr, -⟩⟩ <;> exact (List.getElem?_eq_some_iff.mp hr).1

/-- Matching fails under both polarities or under none, namely if a test fails on some record, and with the
first error of a test. Else the two lists of matches partition the positions, and those that are kept
under whitelisting are the ones whose test holds. -/
theorem Filter.Steady.matching_splits {registry : Registry σ} {f : Filter σ} (h : f.Steady inv registry)
    {s w b : σ} (hs : inv s) (hw : inv w) (hb : inv b) (records : List Json) :
    let verdict := f.verdict registry s
    let white := ((f.matching registry .whitelist records).run w).1
    let black := ((f.matching registry .blacklist records).run b).1
    (∀ e, white = .error e ↔ black = .error e) ∧
    (∀ e, white = .error e ↔ firstError? verdict records = some e) ∧
    ((∃ e, white = .error e) ↔ ∃ record ∈ records, ∃ e, verdict record = .error e) ∧
    ((∃ e, white = .error e) ∨ ∃ kept dropped, white = .ok kept ∧ black = .ok dropped ∧
      IsPartition records kept dropped ∧
      ∀ i, i ∈ kept.map Prod.snd ↔ ∃ record, records[i]? = some record ∧ verdict record = .ok true) := by
  intro verdict white black
  have hwhite : white = matchingBy verdict .whitelist records := h.outcome_matching .whitelist hs hw records
  have hblack : black = matchingBy verdict .blacklist records := h.outcome_matching .blacklist hs hb records
  rw [hwhite, hblack]
  refine ⟨fun e => ?_, fun e => matchingBy_eq_error_iff, ?_, ?_⟩
  · rw [matchingBy_eq_error_iff, matchingBy_eq_error_iff]
  · simp only [matchingBy_eq_error_iff]
    exact exists_firstError?_iff verdict records
  · cases hfirst : firstError? verdict records with
    | some e => exact .inl ⟨e, matchingBy_eq_error_iff.mpr hfirst⟩
    | none =>
      right
      refine ⟨_, _, matchingBy_of_firstError?_eq_none hfirst .whitelist,
        matchingBy_of_firstError?_eq_none hfirst .blacklist, isPartition_keptBy verdict records, fun i => ?_⟩
      simp only [mem_positions_keptBy, Polarity.keeps, beq_iff_eq]

/-- Whether a text begins with an `a`, by a pattern. -/
def beginsWithA : Filter (PatternCache .words) := ⟨[⟨"", .named "matches", .one (.string "^a")⟩]⟩

/-- Of two equal records both are kept, each at its own position, and what is kept does not depend on
which patterns are compiled already. -/
theorem Filter.Steady.matching_splits_beginsWithA :
    let registry := Builtin.registry (.whole .words)
    let records : List Json := [.string "ab", .string "b", .string "ab"]
    beginsWithA.Steady PatternCache.Sound registry ∧ (PatternCache.empty : PatternCache .words).Sound ∧
    ∃ kept dropped,
      ((beginsWithA.matching registry .whitelist records).run .empty).1 = .ok kept ∧
      ((beginsWithA.matching registry .blacklist records).run .empty).1 = .ok dropped ∧
      kept.map Prod.snd = [0, 2] ∧ dropped.map Prod.snd = [1] ∧ IsPartition records kept dropped := by
  intro registry records
  have hslot := CacheSlot.lawful_whole .words
  have hsteady : beginsWithA.Steady PatternCache.Sound registry := by
    refine Builtin.steady_filter hslot fun c hc p hp => ?_
    rw [List.mem_singleton.mp hc] at hp
    cases hp
  have hsound : (PatternCache.empty : PatternCache .words).Sound := PatternCache.sound_empty
  have hwhite : ((beginsWithA.matching registry .whitelist records).run .empty).1 =
      .ok [(.string "ab", 0), (.string "ab", 2)] := rfl
  have hblack : ((beginsWithA.matching registry .blacklist records).run .empty).1 =
      .ok [(.string "b", 1)] := rfl
  obtain ⟨-, -, -, herror | ⟨kept, dropped, hkept, hdropped, hsplit, -⟩⟩ :=
    hsteady.matching_splits hsound hsound hsound records
  · obtain ⟨e, he⟩ := herror
    rw [hwhite] at he
    cases he
  · obtain rfl := Except.ok.inj (hwhite.symm.trans hkept)
    obtain rfl := Except.ok.inj (hblack.symm.trans hdropped)
    exact ⟨hsteady, hsound, _, _, hwhite, hblack, rfl, rfl, hsplit⟩

end Sift
