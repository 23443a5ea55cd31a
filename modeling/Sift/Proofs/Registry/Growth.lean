import Sift.Builtin
import Sift.Proofs.Operator.Written

/-! # Growth of registries

What a call can do to a registry, and what holds of every registry that calls with arbitrary texts can
make of the empty one or of the built-in operators: its names are proper and distinct.
-/
namespace Sift

/-! ## Lookups -/

theorem mem_of_lookup_eq_some {α : Type} {entries : List (String × α)} {name : String} {a : α}
    (h : entries.lookup name = some a) : (name, a) ∈ entries := by
  obtain ⟨before, after, he, -⟩ := List.lookup_eq_some_iff.mp h
  simp [he]

theorem notMem_keys_of_lookup_eq_none {α : Type} {entries : List (String × α)} {name : String}
    (h : entries.lookup name = none) : name ∉ entries.map Prod.fst := by
  intro hmem
  obtain ⟨e, he, rfl⟩ := List.mem_map.mp hmem
  simpa using List.lookup_eq_none_iff.mp h e he

theorem lookup_eq_some_of_mem {α : Type} {entries : List (String × α)} {name : String} {a : α}
    (hnodup : (entries.map Prod.fst).Nodup) (h : (name, a) ∈ entries) : entries.lookup name = some a := by
  obtain ⟨before, after, rfl⟩ := List.append_of_mem h
  refine List.lookup_eq_some_iff.mpr ⟨before, after, rfl, fun e he => bne_iff_ne.mpr ?_⟩
  rintro rfl
  rw [List.map_append, List.map_cons] at hnodup
  exact (List.nodup_append.mp hnodup).2.2 e.1 (List.mem_map_of_mem he) e.1 List.mem_cons_self rfl

/-! ## Calls -/

namespace Registry
open OperatorName

variable {σ : Type}

def Holds (r : Registry σ) (name : String) : Prop := ∃ p, (name, p) ∈ r.entries

theorem lookup_eq_none_iff {r : Registry σ} {name : String} :
    r.entries.lookup name = none ↔ ¬ r.Holds name := by
  rw [List.lookup_eq_none_iff]
  constructor
  · rintro h ⟨p, hp⟩
    simpa using h _ hp
  · intro h e he
    exact bne_iff_ne.mpr fun hname => h ⟨e.2, hname ▸ he⟩

theorem mem_of_lookup {r : Registry σ} {name : String} {p : Predicate σ}
    (h : r.entries.lookup name = some p) : (name, p) ∈ r.entries := mem_of_lookup_eq_some h

/-- The reasons to refuse a trimmed name. -/
def Refuses (r : Registry σ) (name : String) : Prop :=
  name = "" ∨ isNegated name = true ∨ r.Holds name

theorem admits_eq_false_iff {r : Registry σ} {name : String} :
    r.admits name = false ↔ r.Refuses name := by
  simp only [admits, Refuses, Bool.and_eq_false_iff, Bool.not_eq_false', String.isEmpty_iff,
    Option.isNone_eq_false_iff, Option.isSome_iff_ne_none, or_assoc, ne_eq, lookup_eq_none_iff, not_not]

/-- A registration adds one entry, unless the name is refused. -/
theorem register_cases (r : Registry σ) (name : String) (p : Predicate σ) :
    (¬ r.Refuses (Text.trim name) ∧
      r.register name p = (true, ⟨r.entries ++ [(Text.trim name, p)]⟩)) ∨
    (r.Refuses (Text.trim name) ∧ r.register name p = (false, r)) := by
  cases h : r.admits (Text.trim name) with
  | true =>
    have hn : ¬ r.Refuses (Text.trim name) := by
      rw [← admits_eq_false_iff, h]
      decide
    exact .inl ⟨hn, register_of_admits h p⟩
  | false => exact .inr ⟨admits_eq_false_iff.mp h, register_of_not_admits h p⟩

/-- An alias is registered for the predicate of its source, if there is one. -/
theorem addAlias_cases (r : Registry σ) (existing name : String) :
    (∃ p, r.entries.lookup (Text.trim existing) = some p ∧
      r.addAlias existing name = r.register name p) ∨
    (¬ r.Holds (Text.trim existing) ∧ r.addAlias existing name = (false, r)) := by
  cases h : r.entries.lookup (Text.trim existing) with
  | none => exact .inr ⟨lookup_eq_none_iff.mp h, by simp [addAlias, lookup?, h]⟩
  | some p => exact .inl ⟨p, rfl, by simp [addAlias, lookup?, h]⟩

theorem forall_register {r : Registry σ} {P : Predicate σ → Prop} (h : ∀ e ∈ r.entries, P e.2)
    {name : String} {p : Predicate σ} (hp : P p) : ∀ e ∈ (r.register name p).2.entries, P e.2 := by
  rcases r.register_cases name p with ⟨-, he⟩ | ⟨-, he⟩
  · rw [he]
    intro e hmem
    rcases List.mem_append.mp hmem with hmem | hmem
    · exact h e hmem
    · rwa [List.mem_singleton.mp hmem]
  · rwa [he]

theorem forall_addAlias {r : Registry σ} {P : Predicate σ → Prop} (h : ∀ e ∈ r.entries, P e.2)
    {existing name : String} : ∀ e ∈ (r.addAlias existing name).2.entries, P e.2 := by
  rcases r.addAlias_cases existing name with ⟨p, hp, he⟩ | ⟨-, he⟩
  · rw [he]
    exact forall_register h (h _ (mem_of_lookup hp))
  · rwa [he]

/-- Names are proper and no two entries share one. -/
structure Tidy (r : Registry σ) : Prop where
  proper : ∀ e ∈ r.entries, IsProper e.1
  nodup : (r.entries.map Prod.fst).Nodup

theorem tidy_empty : Tidy (empty : Registry σ) := ⟨by simp [empty], List.nodup_nil⟩

theorem isProper_of_not_refuses {r : Registry σ} {name : String} (h : ¬ r.Refuses (Text.trim name)) :
    IsProper (Text.trim name) := by
  simp only [Refuses, not_or, Bool.not_eq_true] at h
  exact ⟨h.1, Text.trim_trim name, h.2.1⟩

theorem Tidy.register {r : Registry σ} (h : r.Tidy) (name : String) (p : Predicate σ) :
    (r.register name p).2.Tidy := by
  rcases r.register_cases name p with ⟨hn, he⟩ | ⟨-, he⟩
  · rw [he]
    constructor
    · intro e hmem
      rcases List.mem_append.mp hmem with hmem | hmem
      · exact h.proper e hmem
      · rw [List.mem_singleton.mp hmem]
        exact isProper_of_not_refuses hn
    · rw [List.map_append, List.nodup_append]
      refine ⟨h.nodup, by simp, ?_⟩
      rintro _ hmem n hnew rfl
      obtain ⟨⟨held, q⟩, he, rfl⟩ := List.mem_map.mp hmem
      obtain rfl : held = Text.trim name := List.mem_singleton.mp hnew
      exact hn (.inr (.inr ⟨q, he⟩))
  · rw [he]
    exact h

theorem Tidy.addAlias {r : Registry σ} (h : r.Tidy) (existing name : String) :
    (r.addAlias existing name).2.Tidy := by
  rcases r.addAlias_cases existing name with ⟨p, -, he⟩ | ⟨-, he⟩
  · rw [he]
    exact h.register name p
  · rw [he]
    exact h

theorem Tidy.lookup_eq_some_iff {r : Registry σ} (h : r.Tidy) {name : String} {p : Predicate σ} :
    r.entries.lookup name = some p ↔ (name, p) ∈ r.entries :=
  ⟨mem_of_lookup, lookup_eq_some_of_mem h.nodup⟩

/-! ## Histories -/

/-- A registry and what it becomes by calls, in any number and order. -/
inductive Later (r : Registry σ) : Registry σ → Prop
  | refl : Later r r
  | register {t : Registry σ} (name : String) (p : Predicate σ) :
      Later r t → Later r (t.register name p).2
  | addAlias {t : Registry σ} (existing name : String) :
      Later r t → Later r (t.addAlias existing name).2

theorem Later.tidy {r t : Registry σ} (l : Later r t) (h : r.Tidy) : t.Tidy := by
  induction l with
  | refl => exact h
  | register name p _ ih => exact ih.register name p
  | addAlias existing name _ ih => exact ih.addAlias existing name

/-- The built-in operators are made of the empty registry by calls. -/
theorem later_builtin {L : PatternLanguage} (slot : CacheSlot L σ) : Later empty (Builtin.registry slot) := by
  unfold Builtin.registry
  refine List.foldlRecOn _ _ (List.foldlRecOn _ _ .refl ?_) ?_
  · intro r l e _
    exact l.register e.1 (e.2.predicate slot)
  · intro r l e _
    exact l.addAlias e.1 e.2

/-- The registries that calls make of the empty one or of the built-in operators. -/
inductive Reachable : Registry σ → Prop
  | ofEmpty {r : Registry σ} : Later empty r → Reachable r
  | ofBuiltin {L : PatternLanguage} {r : Registry σ} (slot : CacheSlot L σ) :
      Later (Builtin.registry slot) r → Reachable r

theorem Reachable.tidy {r : Registry σ} (h : r.Reachable) : r.Tidy := by
  cases h with
  | ofEmpty l => exact l.tidy tidy_empty
  | ofBuiltin slot l => exact l.tidy ((later_builtin slot).tidy tidy_empty)

end Registry
end Sift
