import Sift.Pattern.Words
import Sift.Proofs.Builtin.Naming

/-! # The cache of patterns

The pattern predicate has two names and one cache. Whatever calls came before, a call has the outcome of a
fresh compilation; the cache keeps distinct patterns under their own texts, never more than its limit, and
a call that fails or has no pattern leaves it as it is.
-/
namespace Sift
variable {L : PatternLanguage} {σ : Type}

namespace PatternCache

/-- What a cache is like after any calls: sound, not above its limit, and each text in it once. -/
structure Valid (cache : PatternCache L) : Prop where
  sound : cache.Sound
  bounded : cache.entries.length ≤ limit
  nodup : (cache.entries.map Prod.fst).Nodup

theorem valid_empty : (empty : PatternCache L).Valid where
  sound := sound_empty
  bounded := Nat.zero_le _
  nodup := List.nodup_nil

theorem Valid.fetch {cache cache' : PatternCache L} (h : cache.Valid) {text : String}
    {pattern : L.Compiled} (hf : cache.fetch text = .ok (pattern, cache')) : cache'.Valid := by
  have hsound := h.sound.fetch hf
  rcases fetch_eq_ok hf with rfl | ⟨hnone, -, kept, rfl, hkept⟩
  · exact h
  · have hvalid : kept.length < limit ∧ text ∉ kept.map Prod.fst ∧ (kept.map Prod.fst).Nodup := by
      rcases hkept with rfl | ⟨rfl, hlimit⟩
      · exact ⟨Nat.zero_lt_succ 255, List.not_mem_nil, List.nodup_nil⟩
      · exact ⟨hlimit, notMem_keys_of_lookup_eq_none hnone, h.nodup⟩
    obtain ⟨hlength, hfresh, hnodup⟩ := hvalid
    exact ⟨hsound, hlength, List.nodup_cons.mpr ⟨hfresh, hnodup⟩⟩

end PatternCache

namespace Builtin
variable {slot : CacheSlot L σ}

/-- A call of the pattern predicate under one of its names. -/
structure PatternCall where
  name : String
  field : Option Json
  value : Json
  isPattern : name = "matches" ∨ name = "regexp"

namespace PatternCall
variable (c : PatternCall)

def eval (slot : CacheSlot L σ) : Eval σ Bool :=
  match (registry slot).lookup? c.name with
  | some predicate => predicate.call c.field c.value
  | none => pure false

theorem eval_eq (slot : CacheSlot L σ) : c.eval slot = matchPattern slot c.field c.value := by
  have hfirst : ("matches", Op.matches) ∈ allNames := by decide
  have hfurther : ("regexp", Op.matches) ∈ allNames := by decide +kernel
  have hname : (c.name, Op.matches) ∈ allNames := by
    rcases c.isPattern with h | h
    · rwa [h]
    · rwa [h]
  unfold eval
  rw [(tidy_registry slot).lookup?_eq_some (mem_entries slot hname)]
  rfl

/-- One call: with a valid cache the outcome is that of a fresh compilation, the cache stays valid, and only
a call that succeeds with a pattern changes the state. -/
theorem run_eval (hslot : slot.Lawful) {s : σ} (hs : (slot.get s).Valid) :
    ((c.eval slot).run s).1 = matchAfresh L c.field c.value ∧ (slot.get ((c.eval slot).run s).2).Valid ∧
    ((∀ source, c.value ≠ .string source) ∨ (∃ e, ((c.eval slot).run s).1 = .error e) →
      ((c.eval slot).run s).2 = s) := by
  rw [eval_eq]
  refine ⟨outcome_matchPattern c.field c.value hs.sound, ?_⟩
  cases c.value with
  | string source =>
    rw [run_matchPattern]
    cases hf : (slot.get s).fetch source with
    | error reason => exact ⟨hs, fun _ => rfl⟩
    | ok hit =>
      refine ⟨?_, ?_⟩
      · have hvalid := hs.fetch hf
        rwa [← hslot.get_set hit.2 s] at hvalid
      · rintro (hno | ⟨e, he⟩)
        · exact absurd rfl (hno source)
        · cases he
  | null | bool _ | number _ | array _ | object _ => exact ⟨hs, fun _ => rfl⟩

end PatternCall

/-- The state after some calls. -/
def afterCalls (slot : CacheSlot L σ) (calls : List PatternCall) (s : σ) : σ :=
  calls.foldl (fun s c => ((c.eval slot).run s).2) s

theorem valid_afterCalls (hslot : slot.Lawful) (calls : List PatternCall) {s : σ}
    (hs : (slot.get s).Valid) : (slot.get (afterCalls slot calls s)).Valid := by
  induction calls generalizing s with
  | nil => exact hs
  | cons c calls ih =>
    rw [afterCalls, List.foldl_cons]
    exact ih (c.run_eval hslot hs).2.1

/-- After any calls from an empty cache on, the next one has the outcome of a fresh compilation; each
pattern that is kept then is its own text compiled, no text is kept twice and never are there more of them
than the limit; and the call leaves the state as it is if it fails or its value is no text. -/
theorem pattern_calls_fresh (hslot : slot.Lawful) {s : σ} (hs : slot.get s = .empty)
    (history : List PatternCall) (c : PatternCall) :
    let before := afterCalls slot history s
    let result := (c.eval slot).run before
    result.1 = matchAfresh L c.field c.value ∧
    (∀ e ∈ (slot.get result.2).entries, L.compile e.1 = .ok e.2) ∧
    (slot.get result.2).entries.length ≤ 256 ∧
    ((slot.get result.2).entries.map Prod.fst).Nodup ∧
    ((∀ source, c.value ≠ .string source) ∨ (∃ e, result.1 = .error e) → result.2 = before) := by
  intro before result
  have hempty : (slot.get s).Valid := hs ▸ PatternCache.valid_empty
  obtain ⟨hfresh, hvalid, hunchanged⟩ := c.run_eval hslot (valid_afterCalls hslot history hempty)
  exact ⟨hfresh, hvalid.sound, hvalid.bounded, hvalid.nodup, hunchanged⟩

/-- A text that does not compile, called under the further name after calls under both, leaves the cache
with the pattern of those. -/
theorem pattern_calls_fresh_failing :
    let slot := CacheSlot.whole .words
    let used : PatternCall := ⟨"matches", some (.number (.signed 404)), .string "40", .inl rfl⟩
    let again : PatternCall := ⟨"regexp", none, .string "40", .inr rfl⟩
    let broken : PatternCall := ⟨"regexp", some (.string "4"), .string "(4", .inr rfl⟩
    let before := afterCalls slot [used, again] .empty
    slot.Lawful ∧ slot.get .empty = .empty ∧
    ((broken.eval slot).run before).1 = .error (.invalidPattern (unclosed "(4")) ∧
    ((broken.eval slot).run before).2 = before ∧
    ((again.eval slot).run before).1 = .ok false ∧
    ((used.eval slot).run before).1 = .ok true := by
  intro slot used again broken before
  have hslot : slot.Lawful := CacheSlot.lawful_whole .words
  have hempty : slot.get .empty = .empty := rfl
  obtain ⟨hbroken, -, -, -, hunchanged⟩ := pattern_calls_fresh hslot hempty [used, again] broken
  obtain ⟨hagain, -⟩ := pattern_calls_fresh hslot hempty [used, again] again
  obtain ⟨hused, -⟩ := pattern_calls_fresh hslot hempty [used, again] used
  have hfails : matchAfresh .words broken.field broken.value = .error (.invalidPattern (unclosed "(4")) := rfl
  have hnothing : matchAfresh .words again.field again.value = .ok false := rfl
  have hfound : matchAfresh .words used.field used.value = .ok true := rfl
  have herror := hbroken.trans hfails
  exact ⟨hslot, hempty, herror, hunchanged (.inr ⟨_, herror⟩), hagain.trans hnothing, hused.trans hfound⟩

end Builtin
end Sift
