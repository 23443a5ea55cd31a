import Mathlib.Control.Monad.Basic
import Sift.Pattern.Words
import Sift.Proofs.Evaluation.Calls
import Sift.Proofs.Operator.Written

/-! # Negation

A negation marker inverts what comes of an operator and leaves errors as they are. So a negated condition
on a group of candidates goes like the negated conditions on its candidates one after the other, call by
call, and to drop the records that meet a condition is to keep those that meet its negation.
-/
namespace Sift
variable {σ : Type}

/-! ## Collections -/

namespace Filter
variable {registry : Registry σ} {f g : Filter σ} {p q : Polarity}

/-- Whether a record is kept. -/
def decision (f : Filter σ) (registry : Registry σ) (polarity : Polarity) (record : Json) : Eval σ Bool :=
  polarity.keeps <$> f.test registry record

theorem keepAll_cons (r : Json × Nat) (rs : List (Json × Nat)) :
    f.keepAll registry p (r :: rs) = (do
      let keep ← f.decision registry p r.1
      let kept ← f.keepAll registry p rs
      pure (if keep then r :: kept else kept)) := by
  simp only [keepAll, decision, bind_map_left]

theorem keepFirst_cons (r : Json × Nat) (rs : List (Json × Nat)) :
    f.keepFirst registry p (r :: rs) = (do
      if ← f.decision registry p r.1 then pure (some r) else f.keepFirst registry p rs) := by
  simp only [keepFirst, decision, bind_map_left]

/-- What is kept of a collection depends on the decisions on its records alone. -/
theorem matching_congr (h : ∀ record, f.decision registry p record = g.decision registry q record)
    (records : List Json) : f.matching registry p records = g.matching registry q records := by
  unfold matching
  generalize records.zipIdx = rs
  induction rs with
  | nil => rfl
  | cons r rs ih => rw [keepAll_cons, keepAll_cons, h, ih]

theorem first_congr (h : ∀ record, f.decision registry p record = g.decision registry q record)
    (records : List Json) : f.first registry p records = g.first registry q records := by
  unfold first
  generalize records.zipIdx = rs
  induction rs with
  | nil => rfl
  | cons r rs ih => rw [keepFirst_cons, keepFirst_cons, h, ih]

theorem decision_congr (h : ∀ record, f.test registry record = g.test registry record)
    (polarity : Polarity) (record : Json) :
    f.decision registry polarity record = g.decision registry polarity record := by
  rw [decision, decision, h]

theorem decision_blacklist_of_inverse
    (h : ∀ record, g.test registry record = not <$> f.test registry record) (record : Json) :
    f.decision registry .blacklist record = g.decision registry .whitelist record := by
  rw [decision, decision, h, Functor.map_map]
  rfl

theorem test_singleton (c : Condition σ) (record : Json) :
    (Filter.mk [c]).test registry record = c.matches registry record :=
  Eval.bind_ite_pure _

theorem run_testNoting {τ : Type} (note : τ → Call σ → τ) (f : Filter σ) (registry : Registry σ)
    (record : Json) (s : σ) (t : τ) :
    (f.testNoting note registry record).run (s, t) =
      ((f.trial registry record s).outcome, (f.trial registry record s).after,
        (f.trial registry record s).calls.foldl note t) :=
  (Observation.noting note).follows_test registry f record s t

/-- An observer who cannot tell two filters apart has seen the same trials. -/
theorem trial_eq_of_testNoting_eq {record : Json}
    (h : ∀ (τ : Type) (note : τ → Call σ → τ),
      f.testNoting note registry record = g.testNoting note registry record) (s : σ) :
    f.trial registry record s = g.trial registry record s := by
  -- The observer who keeps a list of the calls sees all of a trial.
  have hboth := run_testNoting (fun noted c => noted ++ [c]) f registry record s []
  rw [h, run_testNoting] at hboth
  simp only [List.foldl_append_eq_append, ← List.flatMap_def, List.flatMap_singleton', List.nil_append] at hboth
  obtain ⟨houtcome, hrest⟩ := Prod.mk.inj hboth
  obtain ⟨hafter, hcalls⟩ := Prod.mk.inj hrest
  generalize f.trial registry record s = t at houtcome hafter hcalls ⊢
  generalize g.trial registry record s = u at houtcome hafter hcalls ⊢
  obtain ⟨calls, outcome, after⟩ := t
  obtain ⟨calls', outcome', after'⟩ := u
  obtain rfl : outcome' = outcome := houtcome
  obtain rfl : after' = after := hafter
  obtain rfl : calls' = calls := hcalls
  rfl

end Filter

/-! ## Groups -/

/-- The negations of a group's candidates, one after the other, go like the negation of the group. -/
theorem not_anyCandidate_eq_testAll {registry : Registry σ} {record : Json} {p : Predicate σ}
    {field : Option Json} {condition : Json → Condition σ}
    (h : ∀ v, (condition v).matches registry record = not <$> p.call field v) (values : List Json) :
    not <$> anyCandidate p field values = Filter.testAll registry record (values.map condition) := by
  induction values with
  | nil => rfl
  | cons v vs ih =>
    rw [anyCandidate, List.map_cons, Filter.testAll, h, map_bind, bind_map_left]
    refine bind_congr fun met => ?_
    cases met with
    | true => rfl
    | false => exact ih

theorem testAll_eq_true {registry : Registry σ} {record : Json} {cs : List (Condition σ)}
    (h : ∀ c ∈ cs, c.matches registry record = pure true) :
    Filter.testAll registry record cs = pure true := by
  induction cs with
  | nil => rfl
  | cons c cs ih =>
    rw [Filter.testAll, h c List.mem_cons_self, pure_bind]
    exact ih fun d hd => h d (List.mem_cons_of_mem c hd)

namespace Filter

/-- The filter of one condition that has all the candidates. -/
def grouped (path : String) (operator : Operator σ) (candidates : List Json) : Filter σ :=
  ⟨[⟨path, operator, .any candidates⟩]⟩

/-- The filter that has a condition for each of the candidates. -/
def separate (path : String) (operator : Operator σ) (candidates : List Json) : Filter σ :=
  ⟨candidates.map fun v => ⟨path, operator, .one v⟩⟩

variable {ρ : Type}

theorem map_grouped (lift : Predicate σ → Predicate ρ) (path : String) (operator : Operator σ)
    (candidates : List Json) :
    (grouped path operator candidates).map lift = grouped path (operator.map lift) candidates := rfl

theorem map_separate (lift : Predicate σ → Predicate ρ) (path : String) (operator : Operator σ)
    (candidates : List Json) :
    (separate path operator candidates).map lift = separate path (operator.map lift) candidates := by
  simp only [Filter.map, separate, List.map_map]
  rfl

theorem test_grouped_eq_test_separate {registry : Registry σ} {operator : Operator σ}
    (h : (operator.reading registry).2 = true) (path : String) (candidates : List Json) (record : Json) :
    (grouped path operator candidates).test registry record =
      (separate path operator candidates).test registry record := by
  rw [grouped, test_singleton]
  rcases hr : operator.reading registry with ⟨_ | p, negated⟩
  -- The negation of an unknown name holds, on each of the candidates as on the group.
  · obtain rfl : negated = true := by simpa [hr] using h
    refine (evaluate_of_reading_none hr _ _).trans (testAll_eq_true fun c hc => ?_).symm
    obtain ⟨v, -, rfl⟩ := List.mem_map.mp hc
    exact evaluate_of_reading_none hr _ _
  · obtain rfl : negated = true := by simpa [hr] using h
    refine (evaluate_of_reading_negated hr _ _).trans (not_anyCandidate_eq_testAll (fun v => ?_) candidates)
    rw [← anyCandidate_singleton]
    exact evaluate_of_reading_negated hr _ _

/-- A negated condition on a group of candidates and the negated conditions on its candidates, in their
order, are tested alike: with the same outcome, by the same calls and whatever an observer of the calls
notes. So they keep the same records. -/
theorem grouped_eq_separate (registry : Registry σ) (path : String) {text : String}
    (h : (OperatorName.parse text).negated = true) (candidates : List Json) :
    let group : Filter σ := grouped path (.named text) candidates
    let each : Filter σ := separate path (.named text) candidates
    (∀ record, group.test registry record = each.test registry record) ∧
    (∀ record s, group.trial registry record s = each.trial registry record s) ∧
    (∀ (τ : Type) (note : τ → Call σ → τ) record,
      group.testNoting note registry record = each.testNoting note registry record) ∧
    (∀ polarity records,
      group.matching registry polarity records = each.matching registry polarity records ∧
      group.first registry polarity records = each.first registry polarity records) := by
  intro group each
  have hreading : ((Operator.named text).reading registry).2 = true := h
  have htest : ∀ record, group.test registry record = each.test registry record :=
    test_grouped_eq_test_separate hreading path candidates
  have hnoting : ∀ (τ : Type) (note : τ → Call σ → τ) record,
      group.testNoting note registry record = each.testNoting note registry record := by
    intro τ note record
    -- To observe the calls is to run the same two filters on observed predicates.
    let o := Observation.noting note
    have hlifted : ((Operator.named text).reading (registry.map o.lift)).2 = true := h
    simp only [testNoting, group, each, map_grouped, map_separate]
    exact test_grouped_eq_test_separate hlifted path candidates record
  refine ⟨htest, fun record s => ?_, hnoting, fun polarity records => ?_⟩
  · exact trial_eq_of_testNoting_eq (fun τ note => hnoting τ note record) s
  · have hdecision := decision_congr htest polarity
    exact ⟨matching_congr hdecision records, first_congr hdecision records⟩

/-- Fails on null, and else compares strictly. -/
def picky : Predicate Unit where
  id := 0
  call field value := match value with
    | .null => throw (.predicateFailed "picky" "null candidate")
    | value => pure (Json.fieldStrictEq field value)

/-- A candidate that is met ends the evaluation before a later one fails, and a failure is the same failure
for the group and for the separate conditions. An array among the candidates is one of them. -/
theorem grouped_eq_separate_picky :
    let registry : Registry Unit := (Registry.empty.register "picky" picky).2
    let candidates : List Json := [.string "a", .array [.string "b"], .null, .string "c"]
    let each : Filter Unit := separate "" (.named "NOT  picky") candidates
    (OperatorName.parse "NOT  picky").negated = true ∧
    (each.test registry (.array [.string "b"])).run () = (.ok false, ()) ∧
    (each.trial registry (.array [.string "b"]) ()).calls.length = 2 ∧
    (each.test registry (.string "c")).run () =
      (.error (.predicateFailed "picky" "null candidate"), ()) ∧
    ((each.matching registry .blacklist [.string "a", .array [.string "b"]]).run ()).1 =
      .ok [(.string "a", 0), (.array [.string "b"], 1)] := by
  intro registry candidates each
  have hnegated : (OperatorName.parse "NOT  picky").negated = true := rfl
  obtain ⟨htest, htrial, -, hcollection⟩ := grouped_eq_separate registry "" hnegated candidates
  refine ⟨hnegated, ?_, ?_, ?_, ?_⟩
  · rw [← htest]
    rfl
  · rw [← htrial]
    rfl
  · rw [← htest]
    rfl
  · rw [← (hcollection .blacklist _).1]
    rfl

end Filter

/-! ## Polarities -/

theorem evaluate_marker_append {n m : String} (hne : Text.trim n ≠ "")
    (hn : OperatorName.isNegated n = false) (hm : OperatorName.IsMarker m) (registry : Registry σ)
    (field : Option Json) (value : ConditionValue) :
    evaluate registry field (.named (m ++ n)) value = not <$> evaluate registry field (.named n) value := by
  have hplain := OperatorName.parse_of_isNegated_eq_false hn
  have hmarked := OperatorName.parse_marker_append hne hn hm
  have hreading (text : String) (negated : Bool) (h : OperatorName.parse text = ⟨Text.trim n, negated⟩) :
      (Operator.named text).reading registry = (registry.lookup? (Text.trim n), negated) := by
    simp only [Operator.reading, h]
  cases hl : registry.lookup? (Text.trim n) with
  | none =>
    rw [evaluate_of_reading_none ((hreading _ _ hplain).trans (by rw [hl])),
      evaluate_of_reading_none ((hreading _ _ hmarked).trans (by rw [hl]))]
    rfl
  | some p =>
    rw [evaluate_of_reading_plain ((hreading _ _ hplain).trans (by rw [hl])),
      evaluate_of_reading_negated ((hreading _ _ hmarked).trans (by rw [hl]))]

namespace Filter

/-- To drop the records that meet a condition is to keep those that meet its negation, with any marker in
front of the name, whether or not the registry holds that name; a failure is the same failure. -/
theorem blacklist_eq_whitelist_negated (registry : Registry σ) (path : String) {n : String}
    (hne : Text.trim n ≠ "") (hn : OperatorName.isNegated (Text.trim n) = false) (value : ConditionValue)
    (records : List Json) :
    let plain : Filter σ := ⟨[⟨path, .named n, value⟩]⟩
    ∀ m, OperatorName.IsMarker m →
      let negated : Filter σ := ⟨[⟨path, .named (m ++ n), value⟩]⟩
      plain.matching registry .blacklist records = negated.matching registry .whitelist records ∧
      plain.first registry .blacklist records = negated.first registry .whitelist records := by
  intro plain m hm negated
  rw [OperatorName.isNegated_trim] at hn
  have htest (record : Json) : negated.test registry record = not <$> plain.test registry record := by
    rw [test_singleton, test_singleton]
    exact evaluate_marker_append hne hn hm registry _ value
  have hdecision := decision_blacklist_of_inverse htest
  exact ⟨matching_congr hdecision records, first_congr hdecision records⟩

/-- A padded name after either marker, on records of which some meet the condition, and after a pattern
that is none. -/
theorem blacklist_eq_whitelist_negated_matches :
    let registry := Builtin.registry (.whole .words)
    let begins (text : String) (patterns : List Json) : Filter (PatternCache .words) :=
      ⟨[⟨"", .named text, .any patterns⟩]⟩
    let records : List Json := [.string "ab", .string "c", .string "ba"]
    Text.trim "\tmatches " ≠ "" ∧ OperatorName.isNegated (Text.trim "\tmatches ") = false ∧
    ((((begins ("not " ++ "\tmatches ") [.string "^a", .string "^b"]).matching registry .whitelist
      records).run .empty).1 = .ok [(.string "c", 1)]) ∧
    ((((begins ("!" ++ "\tmatches ") [.string "^a", .string "["]).first registry .whitelist
      records).run .empty).1 = .error (.invalidPattern (unclosed "["))) := by
  intro registry begins records
  have hne : Text.trim "\tmatches " ≠ "" := by decide
  have hn : OperatorName.isNegated (Text.trim "\tmatches ") = false := by decide
  refine ⟨hne, hn, ?_, ?_⟩
  · obtain ⟨hmatching, -⟩ := blacklist_eq_whitelist_negated registry "" hne hn
      (.any [.string "^a", .string "^b"]) records "not " (.inr rfl)
    rw [← hmatching]
    rfl
  · obtain ⟨-, hfirst⟩ := blacklist_eq_whitelist_negated registry "" hne hn
      (.any [.string "^a", .string "["]) records "!" (.inl rfl)
    rw [← hfirst]
    rfl

end Filter
end Sift
