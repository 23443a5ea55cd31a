import Sift.Proofs.Builtin.Steady
import Sift.Proofs.Registry.Lasting
import Sift.Proofs.Registry.Naming

/-! # The names of the built-in operators

Each built-in operator has a name and at most one alias. All of them are proper and distinct, so none is
refused when the registry is filled, and written with any blanks around it each one runs the predicate of
its operator.
-/
namespace Sift

/-! ## Filling a registry -/

namespace Registry
open OperatorName

variable {σ : Type} {r : Registry σ}

theorem register_of_proper {e : String × Predicate σ} (hproper : IsProper e.1)
    (hfree : e.1 ∉ r.entries.map Prod.fst) : (r.register e.1 e.2).2 = ⟨r.entries ++ [e]⟩ := by
  have htrim := hproper.trim_eq
  have hadmitted : ¬ r.Refuses (Text.trim e.1) := by
    rw [htrim]
    rintro (hempty | hnegated | ⟨p, hp⟩)
    · exact hproper.ne_empty hempty
    · simp [hproper.not_negated] at hnegated
    · exact hfree (List.mem_map.mpr ⟨_, hp, rfl⟩)
  rcases r.register_cases e.1 e.2 with ⟨-, he⟩ | ⟨hrefused, -⟩
  · rw [he, htrim]
  · exact absurd hrefused hadmitted

/-- Proper names that are distinct and new are all added, in their order. -/
theorem entries_foldl_register {es : List (String × Predicate σ)} (hproper : ∀ e ∈ es, IsProper e.1)
    (hnodup : (r.entries.map Prod.fst ++ es.map Prod.fst).Nodup) :
    (es.foldl (fun t e => (t.register e.1 e.2).2) r).entries = r.entries ++ es := by
  induction es generalizing r with
  | nil => simp
  | cons e es ih =>
    have hfree : e.1 ∉ r.entries.map Prod.fst := by
      intro hmem
      exact (List.nodup_append.mp hnodup).2.2 _ hmem _ (by simp) rfl
    rw [List.foldl_cons, register_of_proper (hproper e List.mem_cons_self) hfree, ih]
    · simp
    · exact fun d hd => hproper d (List.mem_cons_of_mem e hd)
    · simpa using hnodup

/-- To add aliases of names that are held is to register the predicates of these. -/
theorem foldl_addAlias_eq {as : List (String × String)} (find : String → Option (Predicate σ))
    (hfind : ∀ a ∈ as, ∃ p, find a.1 = some p ∧ r.lookup? a.1 = some p) :
    as.foldl (fun t a => (t.addAlias a.1 a.2).2) r =
      (as.filterMap fun a => (find a.1).map fun p => (a.2, p)).foldl
        (fun t e => (t.register e.1 e.2).2) r := by
  -- The registry grows along the way, and a source that it holds lasts.
  induction as generalizing r with
  | nil => rfl
  | cons a as ih =>
    obtain ⟨p, hp, hl⟩ := hfind a List.mem_cons_self
    have halias : r.addAlias a.1 a.2 = r.register a.2 p := by simp only [addAlias, hl]
    have hrest : ∀ b ∈ as, ∃ q, find b.1 = some q ∧ (r.register a.2 p).2.lookup? b.1 = some q := by
      intro b hb
      obtain ⟨q, hq, hlq⟩ := hfind b (List.mem_cons_of_mem a hb)
      exact ⟨q, hq, r.le_register a.2 p b.1 q hlq⟩
    rw [List.foldl_cons, halias, ih hrest, List.filterMap_cons, hp]
    rfl

end Registry

/-! ## The built-in names -/

namespace Builtin
open Text OperatorName

variable {L : PatternLanguage} {σ : Type}

section
variable (slot : CacheSlot L σ) {ns : List (String × Op)} {as : List (String × String)}

/-- The aliases of names, each with the operator that it stands for. -/
def aliasNames (ns : List (String × Op)) (as : List (String × String)) : List (String × Op) :=
  as.filterMap fun a => (ns.lookup a.1).map fun op => (a.2, op)

def entriesOf (slot : CacheSlot L σ) (ns : List (String × Op)) : List (String × Predicate σ) :=
  ns.map fun e => (e.1, e.2.predicate slot)

theorem map_fst_entriesOf : (entriesOf slot ns).map Prod.fst = ns.map Prod.fst := by
  simp [entriesOf]

theorem isProper_of_mem_entriesOf (h : ∀ e ∈ ns, IsProper e.1) : ∀ e ∈ entriesOf slot ns, IsProper e.1 := by
  intro e he
  obtain ⟨d, hd, rfl⟩ := List.mem_map.mp he
  exact h d hd

theorem entries_foldl_names (hproper : ∀ e ∈ ns, IsProper e.1) (hnodup : (ns.map Prod.fst).Nodup) :
    (ns.foldl (fun r (name, op) => (r.register name (op.predicate slot)).2) Registry.empty).entries =
      entriesOf slot ns := by
  have hfold : ns.foldl (fun r (name, op) => (r.register name (op.predicate slot)).2) Registry.empty =
      (entriesOf slot ns).foldl (fun t e => (t.register e.1 e.2).2) Registry.empty := by
    rw [entriesOf, List.foldl_map]
  have hfresh : ((Registry.empty : Registry σ).entries.map Prod.fst ++
      (entriesOf slot ns).map Prod.fst).Nodup := by
    rw [map_fst_entriesOf]
    exact hnodup
  rw [hfold, Registry.entries_foldl_register (isProper_of_mem_entriesOf slot hproper) hfresh]
  exact List.nil_append _

theorem lookup_entriesOf (name : String) :
    (entriesOf slot ns).lookup name = (ns.lookup name).map (·.predicate slot) := by
  induction ns with
  | nil => rfl
  | cons e ns ih =>
    obtain ⟨key, op⟩ := e
    simp only [entriesOf, List.map_cons, List.lookup_cons] at ih ⊢
    cases name == key with
    | true => rfl
    | false => exact ih

theorem entries_foldl_aliases {r : Registry σ} (hr : r.entries = entriesOf slot ns)
    (hheld : ∀ a ∈ as, trim a.1 = a.1 ∧ (ns.lookup a.1).isSome = true)
    (hproper : ∀ e ∈ aliasNames ns as, IsProper e.1)
    (hnodup : ((ns ++ aliasNames ns as).map Prod.fst).Nodup) :
    (as.foldl (fun r (existing, name) => (r.addAlias existing name).2) r).entries =
      entriesOf slot (ns ++ aliasNames ns as) := by
  have hfind : ∀ a ∈ as, ∃ p, (ns.lookup a.1).map (·.predicate slot) = some p ∧
      r.lookup? a.1 = some p := by
    intro a ha
    obtain ⟨htrim, hsome⟩ := hheld a ha
    obtain ⟨op, hop⟩ := Option.isSome_iff_exists.mp hsome
    refine ⟨op.predicate slot, by rw [hop]; rfl, ?_⟩
    rw [Registry.lookup?, htrim, hr, lookup_entriesOf, hop]
    rfl
  have haliases : (as.filterMap fun a => ((ns.lookup a.1).map (·.predicate slot)).map fun p => (a.2, p)) =
      entriesOf slot (aliasNames ns as) := by
    simp only [entriesOf, aliasNames, List.map_filterMap, Option.map_map]
    rfl
  have hfold := Registry.foldl_addAlias_eq (fun n => (ns.lookup n).map (·.predicate slot)) hfind
  rw [haliases] at hfold
  refine (congrArg Registry.entries hfold).trans ?_
  rw [Registry.entries_foldl_register (isProper_of_mem_entriesOf slot hproper), hr]
  · simp [entriesOf]
  · rwa [hr, map_fst_entriesOf, map_fst_entriesOf, ← List.map_append]

end

/-- Every name of a built-in operator, the aliases behind the others. -/
def allNames : List (String × Op) := names ++ aliasNames names aliases

theorem isProper_of_mem_allNames : ∀ e ∈ allNames, IsProper e.1 := by
  have hall : ∀ e ∈ allNames, e.1 ≠ "" ∧ trim e.1 = e.1 ∧ isNegated e.1 = false := by decide +kernel
  intro e he
  obtain ⟨hne, htrim, hnegated⟩ := hall e he
  exact ⟨hne, htrim, hnegated⟩

theorem nodup_allNames : (allNames.map Prod.fst).Nodup := by decide +kernel

theorem entries_registry (slot : CacheSlot L σ) : (registry slot).entries = entriesOf slot allNames := by
  have hproper := isProper_of_mem_allNames
  have hnodup := nodup_allNames
  have hheld : ∀ a ∈ aliases, trim a.1 = a.1 ∧ (names.lookup a.1).isSome = true := by decide +kernel
  unfold allNames at hproper hnodup ⊢
  have hnames := entries_foldl_names slot (fun e he => hproper e (List.mem_append_left _ he))
    (hnodup.sublist ((List.sublist_append_left names _).map Prod.fst))
  exact entries_foldl_aliases slot hnames hheld (fun e he => hproper e (List.mem_append_right _ he)) hnodup

theorem tidy_registry (slot : CacheSlot L σ) : (registry slot).Tidy :=
  (Registry.later_builtin slot).tidy Registry.tidy_empty

theorem lookup?_registry (slot : CacheSlot L σ) (name : String) :
    (registry slot).lookup? name = (allNames.lookup (trim name)).map (·.predicate slot) := by
  rw [Registry.lookup?, entries_registry, lookup_entriesOf]

theorem reading_named (slot : CacheSlot L σ) (text : String) :
    (Operator.named text).reading (registry slot) =
      ((allNames.lookup (parse text).name).map (·.predicate slot), (parse text).negated) := by
  simp only [Operator.reading, lookup?_registry, trim_name_parse]

theorem mem_entries (slot : CacheSlot L σ) {name : String} {op : Op} (h : (name, op) ∈ allNames) :
    (name, op.predicate slot) ∈ (registry slot).entries := by
  rw [entries_registry]
  exact List.mem_map_of_mem h

theorem reading_pad (slot : CacheSlot L σ) {name : String} {op : Op} (h : (name, op) ∈ allNames)
    {u x : String} (hu : AllBlank u) (hx : AllBlank x) :
    (Operator.named (u ++ name ++ x)).reading (registry slot) = (some (op.predicate slot), false) :=
  (tidy_registry slot).reading_pad (mem_entries slot h) hu hx

theorem reading_name (slot : CacheSlot L σ) {name : String} {op : Op} (h : (name, op) ∈ allNames) :
    (Operator.named name).reading (registry slot) = (some (op.predicate slot), false) := by
  have hempty : AllBlank "" := by decide
  have hpad := reading_pad slot h hempty hempty
  rwa [String.empty_append, String.append_empty] at hpad

/-- All built-in predicates but the pattern predicate are tests on a field and a value. -/
theorem call_predicate (slot : CacheSlot L σ) {op : Op} (h : op ≠ .matches) (field : Option Json)
    (value : Json) : (op.predicate slot).call field value = pure (op.test field value) := by
  cases op with
  | «matches» => exact absurd rfl h
  | _ => rfl

theorem evaluate_pad (slot : CacheSlot L σ) {name : String} {op : Op} (h : (name, op) ∈ allNames)
    (hop : op ≠ .matches) {u x : String} (hu : AllBlank u) (hx : AllBlank x) (field : Option Json)
    (value : Json) :
    evaluate (registry slot) field (.named (u ++ name ++ x)) (.one value) = pure (op.test field value) := by
  rw [evaluate_of_reading_plain (reading_pad slot h hu hx)]
  exact (anyCandidate_singleton _ _ _).trans (call_predicate slot hop field value)

end Builtin
end Sift
