import Sift.Pattern.Words
import Sift.Proofs.Builtin.Naming
import Sift.Proofs.Filter.Settled

/-! # Failures

Of the built-in operators only the pattern operator fails, namely on a candidate that is a text and no
pattern. Whether such a candidate is tried depends on those before it, since one that is met ends the
evaluation, and on the conditions before its own, since one that does not hold ends the test.
-/
namespace Sift
open OperatorName

variable {L : PatternLanguage} {σ : Type} {slot : CacheSlot L σ}

/-! ## Predicates that never fail -/

/-- A predicate that answers by its arguments alone and never fails. -/
structure Predicate.Total (inv : σ → Prop) (p : Predicate σ) : Prop where
  steady : p.Steady inv
  exists_outcome : ∀ field value s, inv s → ∃ b, ((p.call field value).run s).1 = .ok b

theorem Predicate.Total.exists_anyCandidate {inv : σ → Prop} {p : Predicate σ} (h : p.Total inv)
    (field : Option Json) (values : List Json) {s : σ} (hs : inv s) :
    ∃ b, ((anyCandidate p field values).run s).1 = .ok b := by
  rw [outcome_anyCandidate h.steady field values hs hs]
  refine exists_settle_eq_ok (fun o ho => ?_) false
  obtain ⟨v, -, rfl⟩ := List.mem_map.mp ho
  exact h.exists_outcome field v s hs

namespace Builtin

theorem total_predicate (hslot : slot.Lawful) {op : Op} (hop : op ≠ .matches) :
    (op.predicate slot).Total fun s => (slot.get s).Sound where
  steady := steady_predicate hslot op
  exists_outcome field value s _ := ⟨op.test field value, by rw [call_predicate slot hop]; rfl⟩

/-! ## The pattern operator -/

def IsPatternName (name : String) : Prop := name = "matches" ∨ name = "regexp"

/-- A candidate after which the next one is tried: no text, or a pattern that the text of the field, if it
has one, does not match. -/
def PassedOver (L : PatternLanguage) (field : Option Json) (v : Json) : Prop :=
  ∀ source, v = .string source → ∃ pattern, L.compile source = .ok pattern ∧
    ∀ text, field.bind Json.toText? = some text → L.isMatch pattern text = false

/-- The candidates are passed over up to one that is a text and no pattern, for this reason. -/
def TriesInvalid (L : PatternLanguage) (field : Option Json) (candidates : List Json) (reason : String) :
    Prop :=
  ∃ before source after, candidates = before ++ .string source :: after ∧
    L.compile source = .error reason ∧ ∀ v ∈ before, PassedOver L field v

theorem lookup_allNames_eq_matches_iff {name : String} :
    allNames.lookup name = some .matches ↔ IsPatternName name := by
  constructor
  · intro h
    have hall : ∀ e ∈ allNames, e.2 = .matches → e.1 = "matches" ∨ e.1 = "regexp" := by decide +kernel
    exact hall (name, .matches) (mem_of_lookup_eq_some h) rfl
  · rintro (rfl | rfl) <;> decide +kernel

theorem matchAfresh_eq_false_iff {field : Option Json} {v : Json} :
    matchAfresh L field v = .ok false ↔ PassedOver L field v := by
  unfold PassedOver
  cases v with
  | string source =>
    rw [matchAfresh]
    cases hc : L.compile source with
    | error reason => simp [hc]
    | ok pattern => cases field.bind Json.toText? <;> simp [hc]
  | null | bool _ | number _ | array _ | object _ => simp [matchAfresh]

theorem matchAfresh_eq_error_iff {field : Option Json} {v : Json} {e : FilterError} :
    matchAfresh L field v = .error e ↔
      ∃ reason, e = .invalidPattern reason ∧ ∃ source, v = .string source ∧ L.compile source = .error reason := by
  cases v with
  | string source =>
    rw [matchAfresh]
    cases hc : L.compile source <;> simp [hc, eq_comm]
  | null | bool _ | number _ | array _ | object _ => simp [matchAfresh]

theorem outcome_anyCandidate_eq_error_iff (hslot : slot.Lawful) {s : σ} (hs : (slot.get s).Sound)
    {field : Option Json} {candidates : List Json} {e : FilterError} :
    ((anyCandidate (Op.matches.predicate slot) field candidates).run s).1 = .error e ↔
      ∃ reason, e = .invalidPattern reason ∧ TriesInvalid L field candidates reason := by
  have hcall : ∀ v, (((Op.matches.predicate slot).call field v).run s).1 = matchAfresh L field v :=
    fun v => outcome_matchPattern field v hs
  have herror : Except.error e ≠ .ok false := by simp
  simp only [outcome_anyCandidate (steady_predicate hslot .matches) field candidates hs hs, hcall,
    settle_map_eq_iff herror, matchAfresh_eq_error_iff, matchAfresh_eq_false_iff]
  constructor
  · rintro ⟨before, _, after, hsplit, ⟨reason, he, source, rfl, hinvalid⟩, hbefore⟩
    exact ⟨reason, he, before, source, after, hsplit, hinvalid, hbefore⟩
  · rintro ⟨reason, he, before, source, after, hsplit, hinvalid, hbefore⟩
    exact ⟨before, _, after, hsplit, ⟨reason, he, source, rfl, hinvalid⟩, hbefore⟩

/-- An operator text fails exactly if it names the pattern operator, negated or not, and an invalid pattern
is tried. -/
theorem outcome_evaluate_eq_error_iff (hslot : slot.Lawful) {s : σ} (hs : (slot.get s).Sound)
    {text : String} {field : Option Json} {value : ConditionValue} {e : FilterError} :
    ((evaluate (registry slot) field (.named text) value).run s).1 = .error e ↔
      ∃ reason, e = .invalidPattern reason ∧ IsPatternName (parse text).name ∧
        TriesInvalid L field value.candidates reason := by
  rw [evaluate_eq_reading, reading_named, ← lookup_allNames_eq_matches_iff]
  cases allNames.lookup (parse text).name with
  | none => simp
  | some op =>
    simp only [Option.map_some, Eval.run_map, map_eq_error_iff, Option.some.injEq]
    by_cases hop : op = .matches
    · subst hop
      rw [outcome_anyCandidate_eq_error_iff hslot hs]
      simp
    · obtain ⟨b, hb⟩ := (total_predicate hslot hop).exists_anyCandidate field value.candidates hs
      simp [hb, hop]

end Builtin

/-! ## Filters -/

/-- A condition that names the pattern operator and tries a pattern on a record that is invalid for this
reason. -/
def Condition.TriesInvalid (L : PatternLanguage) (c : Condition σ) (record : Json) (reason : String) : Prop :=
  ∃ text, c.operator = .named text ∧ Builtin.IsPatternName (parse text).name ∧
    Builtin.TriesInvalid L (record.resolve c.field).value? c.value.candidates reason

/-- If a condition carries a predicate, that predicate never fails. -/
def Condition.Total (inv : σ → Prop) (c : Condition σ) : Prop :=
  ∀ p, c.operator = .function p → p.Total inv

namespace Builtin

theorem outcome_matches_eq_error_iff (hslot : slot.Lawful) {s : σ} (hs : (slot.get s).Sound)
    {c : Condition σ} (hc : c.Total fun s => (slot.get s).Sound) {record : Json} {e : FilterError} :
    ((c.matches (registry slot) record).run s).1 = .error e ↔
      ∃ reason, e = .invalidPattern reason ∧ c.TriesInvalid L record reason := by
  unfold Condition.matches Condition.TriesInvalid
  cases ho : c.operator with
  | named text => simp [outcome_evaluate_eq_error_iff hslot hs]
  | function p =>
    obtain ⟨b, hb⟩ := (hc p ho).exists_anyCandidate (record.resolve c.field).value? c.value.candidates hs
    simp [evaluate, hb]

/-- With the built-in operators nothing fails but what tries an invalid pattern: an operator text that names
the pattern operator, negated or not, on candidates up to the first one that is met, and a filter on its
conditions up to the first one that does not hold. A filter that does not name the pattern operator never
fails. -/
theorem fails_iff_tries_invalid (hslot : slot.Lawful) {s : σ} (hs : (slot.get s).Sound) :
    (∀ text field value e, ((evaluate (registry slot) field (.named text) value).run s).1 = .error e ↔
      ∃ reason, e = .invalidPattern reason ∧ IsPatternName (parse text).name ∧
        TriesInvalid L field value.candidates reason) ∧
    (∀ f : Filter σ, (∀ c ∈ f.conditions, c.Total fun s => (slot.get s).Sound) → ∀ record,
      (∀ e, ((f.test (registry slot) record).run s).1 = .error e ↔ ∃ reason, e = .invalidPattern reason ∧
        ∃ before c after, f.conditions = before ++ c :: after ∧ c.TriesInvalid L record reason ∧
          ∀ d ∈ before, ((d.matches (registry slot) record).run s).1 = .ok true) ∧
      ((∀ c ∈ f.conditions, ∀ text, c.operator = .named text → ¬ IsPatternName (parse text).name) →
        ∃ b, ((f.test (registry slot) record).run s).1 = .ok b)) := by
  refine ⟨fun text field value e => outcome_evaluate_eq_error_iff hslot hs, fun f hf record => ?_⟩
  have hsteady := steady_filter hslot fun c hc p hp => (hf c hc p hp).steady
  have htest : ∀ e, ((f.test (registry slot) record).run s).1 = .error e ↔
      ∃ reason, e = .invalidPattern reason ∧
      ∃ before c after, f.conditions = before ++ c :: after ∧ c.TriesInvalid L record reason ∧
        ∀ d ∈ before, ((d.matches (registry slot) record).run s).1 = .ok true := by
    intro e
    have herror : Except.error e ≠ .ok true := by simp
    have hverdict := hsteady.outcome_test_eq_settle record hs hs
    rw [Filter.verdict] at hverdict
    rw [hverdict, settle_map_eq_iff herror]
    constructor
    · rintro ⟨before, c, after, hsplit, hc, hbefore⟩
      have hmem : c ∈ f.conditions := by simp [hsplit]
      obtain ⟨reason, he, hinvalid⟩ := (outcome_matches_eq_error_iff hslot hs (hf c hmem)).mp hc
      exact ⟨reason, he, before, c, after, hsplit, hinvalid, hbefore⟩
    · rintro ⟨reason, he, before, c, after, hsplit, hinvalid, hbefore⟩
      have hmem : c ∈ f.conditions := by simp [hsplit]
      have hc := (outcome_matches_eq_error_iff hslot hs (hf c hmem)).mpr ⟨reason, he, hinvalid⟩
      exact ⟨before, c, after, hsplit, hc, hbefore⟩
  refine ⟨htest, fun hnames => ?_⟩
  cases ho : ((f.test (registry slot) record).run s).1 with
  | ok b => exact ⟨b, rfl⟩
  | error e =>
    obtain ⟨-, -, before, c, after, hsplit, ⟨text, htext, hname, -⟩, -⟩ := (htest e).mp ho
    exact absurd hname (hnames c (by simp [hsplit]) text htext)

/-- A title that is none of some texts, for articles. -/
def titled : Filter (PatternCache .words) :=
  ⟨[⟨"kind", .named "==", .one (.string "article")⟩,
    ⟨"title", .named "NOT  regexp", .any [.number (.signed 5), .string "^y", .string "("]⟩]⟩

/-- A text that is no pattern is tried after a number and a pattern that does not match, under negation and
the further name. The first condition alone does not fail. -/
theorem fails_iff_tries_invalid_titled :
    let record : Json := .object [("kind", .string "article"), ("title", .string "x")]
    (CacheSlot.whole .words).Lawful ∧ ((CacheSlot.whole .words).get .empty).Sound ∧
    (∀ c ∈ titled.conditions, c.Total fun s => ((CacheSlot.whole .words).get s).Sound) ∧
    ((titled.test (registry (.whole .words)) record).run .empty).1 =
      .error (.invalidPattern (unclosed "(")) ∧
    ∃ b, (((⟨titled.conditions.take 1⟩ : Filter (PatternCache .words)).test (registry (.whole .words)) record).run .empty).1 =
      .ok b := by
  intro record
  have hslot := CacheSlot.lawful_whole .words
  have hs : ((CacheSlot.whole .words).get .empty).Sound := PatternCache.sound_empty
  have htotal : ∀ c ∈ titled.conditions, c.Total fun s => ((CacheSlot.whole .words).get s).Sound := by
    intro c hc p hp
    rcases List.mem_cons.mp hc with rfl | hc
    · cases hp
    · obtain rfl := List.mem_singleton.mp hc
      cases hp
  obtain ⟨-, hfilter⟩ := fails_iff_tries_invalid hslot hs
  refine ⟨hslot, hs, htotal, ?_, ?_⟩
  · obtain ⟨htest, -⟩ := hfilter titled htotal record
    refine (htest _).mpr ⟨_, rfl, [_], _, [], rfl, ?_, ?_⟩
    · refine ⟨_, rfl, .inr rfl, [.number (.signed 5), .string "^y"], "(", [], rfl, rfl, fun v hv => ?_⟩
      rcases List.mem_pair.mp hv with rfl | rfl
      · intro source hsource
        cases hsource
      · intro source hsource
        cases hsource
        refine ⟨_, rfl, fun text htext => ?_⟩
        obtain rfl : "x" = text := Option.some.inj htext
        rfl
    · intro d hd
      obtain rfl := List.mem_singleton.mp hd
      rfl
  · have hrest : ∀ c ∈ titled.conditions.take 1, c ∈ titled.conditions := fun c hc => List.mem_of_mem_take hc
    obtain ⟨-, hnever⟩ := hfilter ⟨titled.conditions.take 1⟩ (fun c hc => htotal c (hrest c hc)) record
    refine hnever fun c hc text htext hname => ?_
    obtain rfl := List.mem_singleton.mp hc
    cases htext
    rcases hname with hname | hname <;> exact absurd hname (by decide)

end Builtin
end Sift
