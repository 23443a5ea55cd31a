import Mathlib.Data.List.Induction
import Sift.Filter
import Sift.Proofs.Json.Equality

/-! # The history of a filter

Conditions are appended, and removals strike out some of those that stand. A ledger of all conditions ever
appended, with a mark on each one that a later removal picked, is the whole history of a filter: its
conditions are the entries without a mark, in order.
-/
namespace Sift
variable {σ : Type}

namespace Filter

/-- A change of the conditions of a filter. -/
inductive Edit (σ : Type)
  | add (c : Condition σ)
  | extend (cs : List (Condition σ))
  | remove (k : Criteria σ)
  | removeWhere (selects : List (Condition σ) → Condition σ → Bool)
  | clear

namespace Edit

def apply (f : Filter σ) : Edit σ → Filter σ
  | add c => f.add c
  | extend cs => f.extend cs
  | remove k => f.remove k
  | removeWhere selects => f.removeAsking selects
  | clear => f.clear

def appends : Edit σ → List (Condition σ)
  | add c => [c]
  | extend cs => cs
  | remove _ | removeWhere _ | clear => []

/-- Whether an edit takes a condition away, by those it was asked about before. -/
def selects : Edit σ → List (Condition σ) → Condition σ → Bool
  | add _ | extend _ => fun _ _ => false
  | remove k => fun _ => k.selects
  | removeWhere selects => selects
  | clear => fun _ _ => true

def Memoryless (e : Edit σ) : Prop := ∀ asked c, e.selects asked c = e.selects [] c

end Edit

/-- The filter after a sequence of edits. -/
def edit (f : Filter σ) (es : List (Edit σ)) : Filter σ := es.foldl Edit.apply f

theorem edit_append_singleton (f : Filter σ) (es : List (Edit σ)) (e : Edit σ) :
    f.edit (es ++ [e]) = e.apply (f.edit es) := by
  rw [edit, List.foldl_append]
  rfl

theorem conditions_apply (f : Filter σ) (e : Edit σ) :
    (e.apply f).conditions = retain e.selects [] f.conditions ++ e.appends := by
  cases e with
  | add c => simp [Edit.apply, Edit.selects, Edit.appends, retain_eq_filter (p := fun _ => false)]
  | extend cs => simp [Edit.apply, Edit.selects, Edit.appends, retain_eq_filter (p := fun _ => false)]
  | remove k =>
    simp [Edit.apply, Edit.selects, Edit.appends, Filter.remove, retain_eq_filter (p := k.selects)]
  | removeWhere selects => simp [Edit.apply, Edit.selects, Edit.appends]
  | clear => simp [Edit.apply, Edit.selects, Edit.appends, retain_eq_filter (p := fun _ => true)]

/-! ## The ledger -/

structure Entry (σ : Type) where
  condition : Condition σ
  struck : Bool

def fresh (c : Condition σ) : Entry σ := ⟨c, false⟩

/-- The conditions of the entries without a mark. -/
def standing (entries : List (Entry σ)) : List (Condition σ) :=
  (entries.filter fun entry => !entry.struck).map Entry.condition

/-- Marks what a selector picks among the entries without a mark. -/
def strike (selects : List (Condition σ) → Condition σ → Bool) (asked : List (Condition σ)) :
    List (Entry σ) → List (Entry σ)
  | [] => []
  | ⟨c, true⟩ :: entries => ⟨c, true⟩ :: strike selects asked entries
  | ⟨c, false⟩ :: entries => ⟨c, selects asked c⟩ :: strike selects (asked ++ [c]) entries

def Edit.note (entries : List (Entry σ)) (e : Edit σ) : List (Entry σ) :=
  strike e.selects [] entries ++ e.appends.map fresh

/-- All conditions that edits of the empty filter append, with a mark on those that were taken away. -/
def ledger (es : List (Edit σ)) : List (Entry σ) := es.foldl Edit.note []

def appended (es : List (Edit σ)) : List (Condition σ) := es.flatMap Edit.appends

section
variable (selects : List (Condition σ) → Condition σ → Bool) (asked : List (Condition σ))
  (entries : List (Entry σ))

@[simp] theorem standing_append (entries entries' : List (Entry σ)) :
    standing (entries ++ entries') = standing entries ++ standing entries' := by
  simp [standing]

@[simp] theorem standing_fresh (cs : List (Condition σ)) : standing (cs.map fresh) = cs := by
  induction cs with
  | nil => rfl
  | cons c cs ih => simpa [standing, fresh] using ih

theorem condition_strike :
    (strike selects asked entries).map Entry.condition = entries.map Entry.condition := by
  induction entries generalizing asked with
  | nil => rfl
  | cons entry entries ih =>
    obtain ⟨c, _ | _⟩ := entry <;> simp [strike, ih]

@[simp] theorem length_strike : (strike selects asked entries).length = entries.length := by
  simpa using congrArg List.length (condition_strike selects asked entries)

theorem standing_strike :
    standing (strike selects asked entries) = retain selects asked (standing entries) := by
  induction entries generalizing asked with
  | nil => rfl
  | cons entry entries ih =>
    obtain ⟨c, struck⟩ := entry
    cases struck with
    | true => exact ih asked
    | false =>
      have hrest := ih (asked ++ [c])
      cases hc : selects asked c <;> simpa [standing, strike, retain, hc] using hrest

/-- The mark of an entry after a removal: it stays, or the selector picks the entry after having been asked
about those that stand before it. -/
theorem getElem?_strike (k : Nat) :
    (strike selects asked entries)[k]? = entries[k]?.map fun entry =>
      ⟨entry.condition, entry.struck || selects (asked ++ standing (entries.take k)) entry.condition⟩ := by
  induction entries generalizing asked k with
  | nil => rfl
  | cons entry entries ih =>
    obtain ⟨c, struck⟩ := entry
    cases k with
    | zero => cases struck <;> simp [strike, standing]
    | succ k => cases struck <;> simp [strike, standing, ih]

end

theorem ledger_append_singleton (es : List (Edit σ)) (e : Edit σ) :
    ledger (es ++ [e]) = strike e.selects [] (ledger es) ++ e.appends.map fresh := by
  rw [ledger, List.foldl_append]
  rfl

theorem condition_ledger (es : List (Edit σ)) : (ledger es).map Entry.condition = appended es := by
  induction es using List.reverseRecOn with
  | nil => rfl
  | append_singleton es e ih =>
    have hfresh : (e.appends.map fresh).map Entry.condition = e.appends := by simp [fresh, Function.comp_def]
    rw [ledger_append_singleton, List.map_append, condition_strike, ih, hfresh]
    simp [appended]

/-- The conditions of a filter are what stands in its ledger. -/
theorem conditions_edit_empty (es : List (Edit σ)) :
    (empty.edit es).conditions = standing (ledger es) := by
  induction es using List.reverseRecOn with
  | nil => rfl
  | append_singleton es e ih =>
    rw [edit_append_singleton, conditions_apply, ih, ledger_append_singleton, standing_append,
      standing_strike, standing_fresh]

/-- An edit after others picks the entry at a place of their ledger, having been asked about what stands
before it. -/
def PicksAt (before : List (Edit σ)) (e : Edit σ) (k : Nat) : Prop :=
  ∃ c, (ledger before)[k]? = some ⟨c, false⟩ ∧
    e.selects (standing ((ledger before).take k)) c = true

theorem length_ledger (es : List (Edit σ)) : (ledger es).length = (appended es).length := by
  rw [← condition_ledger, List.length_map]

theorem PicksAt.lt_length {before : List (Edit σ)} {e : Edit σ} {k : Nat} (h : PicksAt before e k) :
    k < (appended before).length := by
  obtain ⟨c, hc, -⟩ := h
  rw [← length_ledger]
  exact (List.getElem?_eq_some_iff.mp hc).1

/-- A split of a longer sequence is one at its last member or one of the sequence before that. -/
theorem exists_split_append_singleton {α : Type} {P : List α → α → Prop} {as : List α} {a : α} :
    (∃ before b after, as ++ [a] = before ++ b :: after ∧ P before b) ↔
      (∃ before b after, as = before ++ b :: after ∧ P before b) ∨ P as a := by
  constructor
  · rintro ⟨before, b, after, heq, hb⟩
    rcases List.eq_nil_or_concat after with rfl | ⟨after, c, rfl⟩
    · obtain ⟨rfl, hlast⟩ := List.append_inj' heq rfl
      obtain rfl := List.singleton_injective hlast
      exact .inr hb
    · rw [List.concat_eq_append, ← List.cons_append, ← List.append_assoc] at heq
      exact .inl ⟨before, b, after, (List.append_inj' heq rfl).1, hb⟩
  · rintro (⟨before, b, after, rfl, hb⟩ | hb)
    · exact ⟨before, b, after ++ [a], by simp, hb⟩
    · exact ⟨as, a, [], rfl, hb⟩

/-- An entry has a mark if some edit has picked it. -/
theorem struck_iff (es : List (Edit σ)) {k : Nat} {entry : Entry σ} (h : (ledger es)[k]? = some entry) :
    entry.struck = true ↔ ∃ before e after, es = before ++ e :: after ∧ PicksAt before e k := by
  induction es using List.reverseRecOn generalizing entry with
  | nil => cases h
  | append_singleton es last ih =>
    rw [exists_split_append_singleton]
    rw [ledger_append_singleton, List.getElem?_append, length_strike] at h
    split at h
    · next hk =>
      rw [getElem?_strike] at h
      obtain ⟨old, hold, rfl⟩ := Option.map_eq_some_iff.mp h
      have hpicks : PicksAt es last k ↔
          old.struck = false ∧ last.selects (standing ((ledger es).take k)) old.condition = true := by
        obtain ⟨c, struck⟩ := old
        cases struck <;> simp [PicksAt, hold]
      rw [← ih hold, hpicks]
      cases old.struck <;> simp
    · next hk =>
      -- The entry is one that the last edit appends, so no edit has been asked about it.
      obtain ⟨c, -, rfl⟩ := List.mem_map.mp (List.mem_of_getElem? h)
      refine iff_of_false (by simp [fresh]) ?_
      rw [length_ledger] at hk
      rintro (⟨before, e, after, rfl, hpicks⟩ | hpicks)
      · have hlt := hpicks.lt_length
        rw [appended, List.flatMap_append, List.length_append] at hk
        exact hk (Nat.lt_add_right _ hlt)
      · exact hk hpicks.lt_length

/-! ## Removals without a memory -/

/-- The conditions that edits append, in order, each with the edits that come after it. -/
def pending : List (Edit σ) → List (Condition σ × List (Edit σ))
  | [] => []
  | e :: es => e.appends.map (·, es) ++ pending es

/-- Without a memory a removal takes away what it selects, whatever stands next to it. -/
theorem conditions_edit_of_memoryless {es : List (Edit σ)} (h : ∀ e ∈ es, e.Memoryless) (f : Filter σ) :
    (f.edit es).conditions = (f.conditions.filter fun c => !es.any fun e => e.selects [] c) ++
      ((pending es).filter fun p => !p.2.any fun e => e.selects [] p.1).map Prod.fst := by
  induction es generalizing f with
  | nil => simp [edit, pending]
  | cons e es ih =>
    have hstep : (e.apply f).conditions =
        (f.conditions.filter fun c => !e.selects [] c) ++ e.appends := by
      rw [conditions_apply, retain_eq_filter (h e List.mem_cons_self)]
    have hrest := ih (fun e' he => h e' (List.mem_cons_of_mem e he)) (e.apply f)
    have hnew : ((e.appends.map (·, es)).filter fun p : Condition σ × List (Edit σ) =>
          !p.2.any fun e => e.selects [] p.1).map Prod.fst =
        e.appends.filter fun c => !es.any fun e => e.selects [] c := by
      rw [List.filter_map, List.map_map]
      exact List.map_id _
    rw [edit, List.foldl_cons, ← edit, hrest, hstep, List.filter_append, List.filter_filter, pending,
      List.filter_append, List.map_append, hnew, List.append_assoc]
    simp only [List.any_cons, Bool.not_or, Bool.and_comm]

end Filter

/-! ## Criteria -/

/-- Written alike, or the same predicate. -/
inductive Operator.SameAs : Operator σ → Operator σ → Prop
  | named (text : String) : SameAs (.named text) (.named text)
  | function {p q : Predicate σ} (h : p.id = q.id) : SameAs (.function p) (.function q)

theorem Operator.same_iff {a b : Operator σ} : a.same b = true ↔ a.SameAs b := by
  constructor
  · intro h
    cases a with
    | named text =>
      cases b with
      | named text' => exact beq_iff_eq.mp h ▸ .named text
      | function _ => cases h
    | function p =>
      cases b with
      | named _ => cases h
      | function q => exact .function (beq_iff_eq.mp h)
  · rintro (⟨text⟩ | h)
    · exact beq_self_eq_true text
    · exact beq_iff_eq.mpr h

theorem Operator.SameAs.refl (a : Operator σ) : a.SameAs a := by
  cases a with
  | named text => exact .named text
  | function p => exact .function rfl

namespace Filter

/-- What is given of the criteria holds of a condition. -/
structure Criteria.Met (k : Criteria σ) (c : Condition σ) : Prop where
  field : ∀ field, k.field = some field → c.field = field
  operator : ∀ operator, k.operator = some operator → c.operator.SameAs operator
  value : ∀ value, k.value = some value → c.value.SameAs value

theorem Criteria.selects_iff {k : Criteria σ} {c : Condition σ} : k.selects c = true ↔ k.Met c := by
  simp only [selects, Bool.and_eq_true, Option.all_eq_true, Operator.same_iff,
    ConditionValue.sameCandidates_iff, beq_iff_eq]
  exact ⟨fun ⟨⟨hf, ho⟩, hv⟩ => ⟨hf, ho, hv⟩, fun ⟨hf, ho, hv⟩ => ⟨⟨hf, ho⟩, hv⟩⟩

def Criteria.of (c : Condition σ) : Criteria σ := ⟨some c.field, some c.operator, some c.value⟩

theorem Criteria.of_selects_iff {c d : Condition σ} :
    (Criteria.of c).selects d = true ↔
      d.field = c.field ∧ d.operator.SameAs c.operator ∧ d.value.SameAs c.value := by
  rw [selects_iff]
  constructor
  · exact fun ⟨hf, ho, hv⟩ => ⟨hf _ rfl, ho _ rfl, hv _ rfl⟩
  · rintro ⟨hf, ho, hv⟩
    refine ⟨?_, ?_, ?_⟩
    · rintro _ ⟨⟩
      exact hf
    · rintro _ ⟨⟩
      exact ho
    · rintro _ ⟨⟩
      exact hv

theorem Criteria.of_selects_self {c : Condition σ} (h : ∀ v ∈ c.value.candidates, v.IsCanonical) :
    (Criteria.of c).selects c = true :=
  of_selects_iff.mpr ⟨rfl, .refl c.operator, .refl h⟩

theorem remove_remove (f : Filter σ) (k : Criteria σ) : (f.remove k).remove k = f.remove k :=
  congrArg mk (by simp [remove])

/-- The conditions of a filter are all that were ever appended, in that order, without those that a removal
picked after they had been appended. A removal by criteria picks what meets every given one; by the
criteria of a condition it takes away this condition and those with the same three parts, once and for
all. -/
theorem conditions_of_history :
    (∀ es : List (Edit σ),
      (ledger es).map Entry.condition = appended es ∧
      (empty.edit es).conditions = standing (ledger es) ∧
      (∀ k entry, (ledger es)[k]? = some entry →
        (entry.struck = true ↔ ∃ before e after, es = before ++ e :: after ∧ PicksAt before e k)) ∧
      ((∀ e ∈ es, e.Memoryless) → (empty.edit es).conditions =
        ((pending es).filter fun p => !p.2.any fun e => e.selects [] p.1).map Prod.fst)) ∧
    (∀ (k : Criteria σ) (c : Condition σ), k.selects c = true ↔ k.Met c) ∧
    (∀ (f : Filter σ) (c : Condition σ), c ∈ f.conditions → (∀ v ∈ c.value.candidates, v.IsCanonical) →
      c ∉ (f.remove (.of c)).conditions ∧
      (f.remove (.of c)).conditions = f.conditions.filter (fun d => !(Criteria.of c).selects d) ∧
      (∀ d : Condition σ, (Criteria.of c).selects d = true ↔
        d.field = c.field ∧ d.operator.SameAs c.operator ∧ d.value.SameAs c.value) ∧
      (f.remove (.of c)).remove (.of c) = f.remove (.of c)) := by
  refine ⟨fun es => ?_, fun k c => Criteria.selects_iff, fun f c _ hcanonical => ?_⟩
  · refine ⟨condition_ledger es, conditions_edit_empty es, fun k entry => struck_iff es, fun h => ?_⟩
    simpa using conditions_edit_of_memoryless h empty
  · refine ⟨fun hmem => ?_, rfl, fun d => Criteria.of_selects_iff, remove_remove f (.of c)⟩
    have hkept := (List.mem_filter.mp hmem).2
    rw [Criteria.of_selects_self hcanonical] at hkept
    cases hkept

def olderThanThirty : Condition Unit := ⟨"age", .named ">", .one (.number (.signed 30))⟩

def namedWithA : Condition Unit := ⟨"name", .named "contains", .one (.string "a")⟩

/-- The number of a removal need not be written as that of the condition, and what is appended after the
removal stays. A selector that picks whatever it is asked about second takes away one of two equal
conditions. -/
theorem conditions_of_history_repeated :
    let thirty : ConditionValue := .one (.number (.float (Binary64.ofInt 30)))
    let es : List (Edit Unit) := [.add olderThanThirty, .extend [namedWithA, olderThanThirty],
      .remove ⟨none, none, some thirty⟩, .add olderThanThirty]
    let second : Edit Unit := .removeWhere fun asked _ => asked.length == 1
    (empty.edit es).conditions = [namedWithA, olderThanThirty] ∧
    (empty.edit [.extend [namedWithA, namedWithA], second]).conditions = [namedWithA] ∧
    (∃ before e after, [.extend [namedWithA, namedWithA], second] = before ++ e :: after ∧
      PicksAt before e 1) ∧
    ((empty.edit es).remove (.of olderThanThirty)).conditions = [namedWithA] ∧
    olderThanThirty ∉ ((empty.edit es).remove (.of olderThanThirty)).conditions := by
  intro thirty es second
  obtain ⟨hhistory, -, hremove⟩ := @conditions_of_history Unit
  have hmemoryless : ∀ e ∈ es, e.Memoryless := by
    intro e he asked c
    simp only [es, List.mem_cons, List.not_mem_nil, or_false] at he
    rcases he with rfl | rfl | rfl | rfl <;> rfl
  have hpicked : olderThanThirty.value.sameCandidates thirty = true := by decide +kernel
  have hleft : namedWithA.value.sameCandidates thirty = false := rfl
  have hconditions : (empty.edit es).conditions = [namedWithA, olderThanThirty] := by
    rw [(hhistory es).2.2.2 hmemoryless]
    simp [es, pending, Edit.appends, Edit.selects, Criteria.selects, hpicked, hleft]
  have hsecond := hhistory [.extend [namedWithA, namedWithA], second]
  have hmem : olderThanThirty ∈ (empty.edit es).conditions := by
    rw [hconditions]
    exact List.mem_cons_of_mem _ List.mem_cons_self
  obtain ⟨hgone, hrest, -, -⟩ := hremove _ olderThanThirty hmem fun v hv => by
    obtain rfl := List.mem_singleton.mp hv
    exact trivial
  refine ⟨hconditions, hsecond.2.1, (hsecond.2.2.1 1 ⟨namedWithA, true⟩ rfl).mp rfl, ?_, hgone⟩
  rw [hrest, hconditions]
  rfl

end Filter
end Sift
