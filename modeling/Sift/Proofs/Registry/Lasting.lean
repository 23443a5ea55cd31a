import Mathlib.Control.Monad.Basic
import Sift.Filter
import Sift.Proofs.Evaluation.Run
import Sift.Proofs.Registry.Growth

/-! # Answers that last

A registry agrees with an earlier one on every name that the earlier one holds, so an operator that was
known is evaluated alike ever after, and so is a filter of such operators. What later calls can change is
the evaluation of names that were unknown, which met nothing before.
-/
namespace Sift
variable {σ : Type}

namespace Registry
open OperatorName
variable {r s t : Registry σ}

/-- Every name of the first registry stands for the same predicate in the second one. -/
def Le (r t : Registry σ) : Prop := ∀ name p, r.lookup? name = some p → t.lookup? name = some p

theorem Le.refl (r : Registry σ) : r.Le r := fun _ _ hp => hp

theorem Le.trans (h : r.Le s) (g : s.Le t) : r.Le t := fun name p hp => g name p (h name p hp)

theorem le_register (r : Registry σ) (name : String) (q : Predicate σ) : r.Le (r.register name q).2 := by
  intro n p hp
  rcases r.register_cases name q with ⟨-, he⟩ | ⟨-, he⟩
  · rw [he]
    -- The new entry stands behind the old ones, where a name that is held is found first.
    rw [lookup?] at hp ⊢
    rw [List.lookup_append, hp]
    rfl
  · rwa [he]

theorem le_addAlias (r : Registry σ) (existing name : String) : r.Le (r.addAlias existing name).2 := by
  rcases r.addAlias_cases existing name with ⟨p, -, he⟩ | ⟨-, he⟩
  · rw [he]
    exact r.le_register name p
  · rw [he]
    exact Le.refl r

theorem Later.le (l : Later r t) : r.Le t := by
  induction l with
  | refl => exact Le.refl r
  | register name p _ ih => exact ih.trans (le_register _ name p)
  | addAlias existing name _ ih => exact ih.trans (le_addAlias _ existing name)

theorem Later.trans (l : Later r s) (m : Later s t) : Later r t := by
  induction m with
  | refl => exact l
  | register name p _ ih => exact ih.register name p
  | addAlias existing name _ ih => exact ih.addAlias existing name

theorem Later.reachable (l : Later r t) (h : r.Reachable) : t.Reachable := by
  cases h with
  | ofEmpty m => exact .ofEmpty (m.trans l)
  | ofBuiltin slot m => exact .ofBuiltin slot (m.trans l)

theorem lookup?_register {name : String} {p : Predicate σ} (h : (r.register name p).1 = true) :
    (r.register name p).2.lookup? name = some p := by
  rcases r.register_cases name p with ⟨hn, he⟩ | ⟨-, he⟩
  · have hnew : r.entries.lookup (Text.trim name) = none :=
      lookup_eq_none_iff.mpr fun hheld => hn (.inr (.inr hheld))
    rw [he, lookup?, List.lookup_append, hnew]
    simp
  · simp [he] at h

theorem lookup?_addAlias {existing name : String} (h : (r.addAlias existing name).1 = true) :
    ∃ p, r.lookup? existing = some p ∧ (r.addAlias existing name).2.lookup? existing = some p ∧
      (r.addAlias existing name).2.lookup? name = some p := by
  rcases r.addAlias_cases existing name with ⟨p, hp, he⟩ | ⟨-, he⟩
  · refine ⟨p, hp, r.le_addAlias existing name existing p hp, ?_⟩
    rw [he] at h ⊢
    exact lookup?_register h
  · simp [he] at h

end Registry

/-- Whether an operator carries its predicate or has a name that the registry holds. -/
def Operator.Known (r : Registry σ) : Operator σ → Prop
  | .named text => r.Holds (OperatorName.parse text).name
  | .function _ => True

theorem Operator.exists_lookup?_iff {r : Registry σ} {text : String} :
    (∃ p, r.lookup? (OperatorName.parse text).name = some p) ↔ (Operator.named text).Known r := by
  rw [← Option.ne_none_iff_exists', Registry.lookup?, OperatorName.trim_name_parse, ne_eq,
    Registry.lookup_eq_none_iff, not_not]
  rfl

namespace Registry.Le
variable {r t : Registry σ} {operator : Operator σ}

theorem reading_eq (h : r.Le t) (hk : operator.Known r) : operator.reading t = operator.reading r := by
  cases operator with
  | named text =>
    obtain ⟨p, hp⟩ := Operator.exists_lookup?_iff.mpr hk
    simp only [Operator.reading, hp, h _ p hp]
  | function p => rfl

theorem evaluate_eq (h : r.Le t) (hk : operator.Known r) (field : Option Json) (value : ConditionValue) :
    evaluate t field operator value = evaluate r field operator value := by
  rw [evaluate_eq_reading, evaluate_eq_reading, h.reading_eq hk]

theorem test_eq (h : r.Le t) {f : Filter σ} (hk : ∀ c ∈ f.conditions, c.operator.Known r)
    (record : Json) : f.test t record = f.test r record := by
  obtain ⟨conditions⟩ := f
  unfold Filter.test
  induction conditions with
  | nil => rfl
  | cons c cs ih =>
    have hc : c.matches t record = c.matches r record := h.evaluate_eq (hk c List.mem_cons_self) _ _
    have hcs : Filter.testAll t record cs = Filter.testAll r record cs :=
      ih fun d hd => hk d (List.mem_cons_of_mem c hd)
    simp only [Filter.testAll, hc, hcs]

end Registry.Le

/-- An unknown name meets nothing, before negation. -/
theorem evaluate_of_not_known {r : Registry σ} {text : String} (h : ¬ (Operator.named text).Known r)
    (field : Option Json) (value : ConditionValue) :
    evaluate r field (.named text) value = pure (OperatorName.parse text).negated := by
  have hnone : r.lookup? (OperatorName.parse text).name = none :=
    Option.eq_none_iff_forall_ne_some.mpr fun p hp => h (Operator.exists_lookup?_iff.mp ⟨p, hp⟩)
  simp only [evaluate, hnone]

namespace Registry
open OperatorName
variable {r t : Registry σ}

/-- Later calls leave every answer of a registry as it is: a name that is held keeps its predicate, and an
alias stays the same predicate as its source, so that operators by such names and filters of them are
evaluated as before. A condition that is evaluated differently has a name that was unknown, and held before
exactly if it is negated. -/
theorem Reachable.answers_last (h : r.Reachable) (l : Later r t) :
    (∀ text, r.Holds (parse text).name → ∀ field value,
      evaluate t field (.named text) value = evaluate r field (.named text) value) ∧
    (∀ name p, (name, p) ∈ r.entries → ∀ q, (name, q) ∈ t.entries ↔ q = p) ∧
    (∀ (s : Registry σ) existing name, (s.addAlias existing name).1 = true →
      Later (s.addAlias existing name).2 r →
      ∃ p, s.lookup? existing = some p ∧ t.lookup? existing = some p ∧ t.lookup? name = some p) ∧
    (∀ f : Filter σ, (∀ c ∈ f.conditions, c.operator.Known r) → ∀ record,
      f.test t record = f.test r record) ∧
    (∀ (c : Condition σ) record, c.matches t record ≠ c.matches r record →
      ∃ text, c.operator = .named text ∧ ¬ r.Holds (parse text).name ∧
        c.matches r record = pure (parse text).negated) := by
  refine ⟨?_, ?_, ?_, ?_, ?_⟩
  · intro text hheld field value
    have hk : (Operator.named text).Known r := hheld
    exact l.le.evaluate_eq hk field value
  · intro name p hp q
    have hr := h.tidy
    have ht := (l.reachable h).tidy
    have htrim := (hr.proper _ hp).trim_eq
    have hbefore : r.lookup? name = some p := by
      rw [lookup?, htrim]
      exact hr.lookup_eq_some_iff.mpr hp
    have hlater := l.le name p hbefore
    rw [lookup?, htrim] at hlater
    rw [← ht.lookup_eq_some_iff, hlater, Option.some.injEq, eq_comm]
  · intro s existing name hadded hlater
    obtain ⟨p, hp, hsource, halias⟩ := lookup?_addAlias hadded
    have hle := (hlater.trans l).le
    exact ⟨p, hp, hle _ _ hsource, hle _ _ halias⟩
  · intro f hk record
    exact l.le.test_eq hk record
  · intro c record hne
    cases ho : c.operator with
    | named text =>
      have hk : ¬ (Operator.named text).Known r := by
        intro hk
        exact hne (l.le.evaluate_eq (ho ▸ hk) _ _)
      refine ⟨text, rfl, hk, ?_⟩
      rw [Condition.matches, ho]
      exact evaluate_of_not_known hk _ _
    | function p =>
      exact absurd (l.le.evaluate_eq (by rw [ho]; trivial) _ _) hne

/-- A registry that holds one predicate, under a name and an alias. -/
def shouting : Registry Unit :=
  ((empty.register "shout" (.ofTest 0 fun _ _ => true)).2.addAlias "shout" "cry").2

/-- The same registry after a call that is refused and one that is not. -/
def whispering : Registry Unit :=
  ((shouting.register "cry" (.ofTest 1 fun _ _ => false)).2.register "whisper" (.ofTest 1 fun _ _ => true)).2

/-- The alias still stands for what its source stands for, whatever is registered later. Only the name that
was unknown is evaluated differently: it was met by nothing, so that its negation held. -/
theorem Reachable.answers_last_whispering :
    let unknown : Condition Unit := ⟨"", .named "!whisper", .one .null⟩
    let known : Filter Unit := ⟨[⟨"", .named "not  cry", .one .null⟩, ⟨"a", .named "shout", .any []⟩]⟩
    shouting.Reachable ∧ Later shouting whispering ∧ (∀ c ∈ known.conditions, c.operator.Known shouting) ∧
    known.test whispering .null = known.test shouting .null ∧
    (∃ p, whispering.lookup? "shout" = some p ∧ whispering.lookup? "cry" = some p) ∧
    unknown.matches whispering .null ≠ unknown.matches shouting .null ∧
    unknown.matches shouting .null = pure true := by
  intro unknown known
  have hreachable : shouting.Reachable := .ofEmpty (.addAlias _ _ (.register _ _ .refl))
  have hlater : Later shouting whispering := .register _ _ (.register _ _ .refl)
  have hknown : ∀ c ∈ known.conditions, c.operator.Known shouting := by
    intro c hc
    rcases List.mem_cons.mp hc with rfl | hc
    · exact ⟨_, List.mem_cons_of_mem _ List.mem_cons_self⟩
    · rw [List.mem_singleton.mp hc]
      exact ⟨_, List.mem_cons_self⟩
  have hne : unknown.matches whispering .null ≠ unknown.matches shouting .null := by
    intro h
    have hanswers := congrArg (fun m => (m.run ()).1) h
    cases (show Except.ok false = Except.ok true from hanswers)
  obtain ⟨-, -, halias, htest, hchanged⟩ := hreachable.answers_last hlater
  obtain ⟨p, -, hp⟩ := halias (empty.register "shout" (.ofTest 0 fun _ _ => true)).2 "shout" "cry" rfl .refl
  obtain ⟨text, ho, -, hbefore⟩ := hchanged unknown .null hne
  obtain rfl : "!whisper" = text := Operator.named.inj ho
  exact ⟨hreachable, hlater, hknown, htest known hknown .null, ⟨p, hp⟩, hne, hbefore⟩

end Registry
end Sift
