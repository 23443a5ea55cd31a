import Sift.Proofs.Evaluation.Steady
import Sift.Proofs.Registry.Growth

/-! # The built-in operators are steady

A pattern cache is sound if what it keeps under a text is that text, compiled. The pattern predicate keeps
its cache sound, and with a sound cache its outcome is that of a fresh compilation. So all built-in
predicates answer by their arguments alone, and with them every filter of named operators.
-/
namespace Sift
variable {L : PatternLanguage} {σ : Type}

/-- Every pattern is kept under the text that it was compiled from. -/
def PatternCache.Sound (cache : PatternCache L) : Prop := ∀ e ∈ cache.entries, L.compile e.1 = .ok e.2

namespace PatternCache

theorem sound_empty : (empty : PatternCache L).Sound := by simp [Sound, empty]

variable {cache cache' : PatternCache L} {text : String} {pattern : L.Compiled}

/-- What is fetched either is there already, or is compiled and put in front of an empty or unfull cache. -/
theorem fetch_eq_ok (h : cache.fetch text = .ok (pattern, cache')) :
    cache' = cache ∨ cache.entries.lookup text = none ∧ L.compile text = .ok pattern ∧
      ∃ kept, cache' = ⟨(text, pattern) :: kept⟩ ∧
        (kept = [] ∨ kept = cache.entries ∧ cache.entries.length < limit) := by
  unfold fetch at h
  split at h
  · cases h
    exact .inl rfl
  · next hnone =>
    cases hc : L.compile text with
    | error reason =>
      rw [hc] at h
      cases h
    | ok p =>
      rw [hc] at h
      obtain ⟨rfl, rfl⟩ := Prod.mk.inj (Except.ok.inj h)
      refine .inr ⟨hnone, rfl, _, rfl, ?_⟩
      split
      · exact .inl rfl
      · next hlimit => exact .inr ⟨rfl, Nat.lt_of_not_le hlimit⟩

theorem Sound.fetch (h : cache.Sound) (hf : cache.fetch text = .ok (pattern, cache')) : cache'.Sound := by
  rcases fetch_eq_ok hf with rfl | ⟨-, hcompiled, kept, rfl, hkept⟩
  · exact h
  · refine List.forall_mem_cons.mpr ⟨hcompiled, ?_⟩
    rcases hkept with rfl | ⟨rfl, -⟩
    · exact List.forall_mem_nil _
    · exact h

/-- From a sound cache comes what a fresh compilation gives. -/
theorem Sound.map_fetch (h : cache.Sound) (text : String) :
    (cache.fetch text).map Prod.fst = L.compile text := by
  unfold PatternCache.fetch
  cases hl : cache.entries.lookup text with
  | some pattern => exact (h (text, pattern) (mem_of_lookup_eq_some hl)).symm
  | none => cases L.compile text <;> rfl

end PatternCache

namespace Builtin
variable {slot : CacheSlot L σ}

/-- The outcome of a pattern that is compiled for the occasion. -/
def matchAfresh (L : PatternLanguage) (field : Option Json) : Json → Except FilterError Bool
  | .string source => match L.compile source with
    | .ok pattern => .ok ((field.bind Json.toText?).any (L.isMatch pattern))
    | .error reason => .error (.invalidPattern reason)
  | _ => .ok false

theorem run_matchPattern (field : Option Json) (source : String) (s : σ) :
    (matchPattern slot field (.string source)).run s = match (slot.get s).fetch source with
      | .ok (pattern, cache) => (.ok ((field.bind Json.toText?).any (L.isMatch pattern)), slot.set cache s)
      | .error reason => (.error (.invalidPattern reason), s) := by
  have hget : (get : Eval σ σ).run s = (.ok s, s) := rfl
  simp only [matchPattern, Eval.run_bind, hget]
  cases (slot.get s).fetch source with
  | error reason => rfl
  | ok hit => cases field.bind Json.toText? <;> rfl

/-- With a sound cache the outcome is that of a fresh compilation. -/
theorem outcome_matchPattern (field : Option Json) (value : Json) {s : σ} (hs : (slot.get s).Sound) :
    ((matchPattern slot field value).run s).1 = matchAfresh L field value := by
  cases value with
  | string source =>
    rw [run_matchPattern, matchAfresh, ← hs.map_fetch source]
    cases (slot.get s).fetch source <;> rfl
  | null | bool _ | number _ | array _ | object _ => rfl

theorem sound_after_matchPattern (hslot : slot.Lawful) (field : Option Json) (value : Json) {s : σ}
    (hs : (slot.get s).Sound) : (slot.get ((matchPattern slot field value).run s).2).Sound := by
  cases value with
  | string source =>
    rw [run_matchPattern]
    cases hf : (slot.get s).fetch source with
    | error reason => exact hs
    | ok hit =>
      change (slot.get (slot.set hit.2 s)).Sound
      rw [hslot.get_set]
      exact hs.fetch hf
  | null | bool _ | number _ | array _ | object _ => exact hs

theorem steady_matchPattern (hslot : slot.Lawful) (field : Option Json) (value : Json) :
    Eval.Steady (fun s => (slot.get s).Sound) (matchPattern slot field value) := by
  refine ⟨fun s hs => sound_after_matchPattern hslot field value hs, fun s t hs ht => ?_⟩
  rw [outcome_matchPattern field value hs, outcome_matchPattern field value ht]

theorem steady_predicate (hslot : slot.Lawful) (op : Op) :
    (op.predicate slot).Steady fun s => (slot.get s).Sound := by
  intro field value
  cases op with
  | «matches» => exact steady_matchPattern hslot field value
  | _ => exact Eval.steady_pure _

/-- A predicate is one of the built-in ones. -/
def IsBuiltin (slot : CacheSlot L σ) (p : Predicate σ) : Prop := ∃ op : Op, p = op.predicate slot

theorem isBuiltin_of_mem_entries : ∀ e ∈ (registry slot).entries, IsBuiltin slot e.2 := by
  unfold registry
  have hempty : ∀ e ∈ (Registry.empty : Registry σ).entries, IsBuiltin slot e.2 :=
    fun e he => absurd he List.not_mem_nil
  -- The predicates under their first names, then the further names.
  apply List.foldlRecOn (motive := fun r : Registry σ => ∀ e ∈ r.entries, IsBuiltin slot e.2)
  · apply List.foldlRecOn (motive := fun r : Registry σ => ∀ e ∈ r.entries, IsBuiltin slot e.2)
    · exact hempty
    · intro r h e _
      exact Registry.forall_register (P := IsBuiltin slot) h ⟨e.2, rfl⟩
  · intro r h e _
    exact Registry.forall_addAlias (P := IsBuiltin slot) h

/-- On the built-in operators every filter is steady whose function operators are. -/
theorem steady_filter (hslot : slot.Lawful) {f : Filter σ}
    (h : ∀ c ∈ f.conditions, ∀ p, c.operator = .function p → p.Steady fun s => (slot.get s).Sound) :
    f.Steady (fun s => (slot.get s).Sound) (registry slot) := by
  intro c hc p hp
  cases ho : c.operator with
  | function q =>
    rw [ho] at hp
    exact Option.some.inj hp ▸ h c hc q ho
  | named text =>
    rw [ho] at hp
    simp only [Operator.reading, Registry.lookup?] at hp
    obtain ⟨op, rfl⟩ := isBuiltin_of_mem_entries _ (Registry.mem_of_lookup hp)
    exact steady_predicate hslot op

end Builtin
end Sift
