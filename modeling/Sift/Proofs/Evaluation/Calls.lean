import Mathlib.Control.Monad.Basic
import Sift.Filter
import Sift.Proofs.Evaluation.Run

/-! # What a test calls

A trial says of a part of an evaluation which predicates it calls, what comes of it and which state it
leaves. The trials of a row of candidates, or of conditions, could all take place one after the other;
a lazy row ends with the first one that has another outcome than the one to go on with. A test is a lazy
row of conditions, each of which is a lazy row of candidates, also for an observer who notes every call.
-/
namespace Sift

/-- A call of a predicate and what comes of it. -/
structure Call (σ : Type) where
  predicate : Predicate σ
  field : Option Json
  value : Json
  outcome : Except FilterError Bool

/-- The calls of a part of an evaluation, in order, its outcome and the state it leaves. -/
structure Trial (σ : Type) where
  calls : List (Call σ)
  outcome : Except FilterError Bool
  after : σ

variable {σ τ ρ : Type}

namespace Trial

/-- A trial of each thing, in the state that the one before it left. -/
def row {α : Type} (attempt : α → σ → Trial σ) : List α → σ → List (Trial σ)
  | [], _ => []
  | a :: as, s => attempt a s :: row attempt as (attempt a s).after

/-- The trials up to and including the first one that has another outcome than `go`. -/
def upTo (go : Bool) (trials : List (Trial σ)) : List (Trial σ) :=
  trials.take (trials.findIdx (·.outcome != .ok go) + 1)

/-- The trials of a row in a state as one, of which no more take place than are needed: its outcome is the
first one other than `go`, and `go` if there is no other. -/
def lazily (go : Bool) (s : σ) (trials : List (Trial σ)) : Trial σ where
  calls := (upTo go trials).flatMap calls
  outcome := ((trials.find? (·.outcome != .ok go)).map outcome).getD (.ok go)
  after := ((upTo go trials).getLast?.map after).getD s

def invert (negated : Bool) (t : Trial σ) : Trial σ := { t with outcome := t.outcome.map (· != negated) }

@[simp] theorem invert_false (t : Trial σ) : t.invert false = t := by
  obtain ⟨calls, outcome, after⟩ := t
  cases outcome <;> simp [invert, Except.map]

@[simp] theorem lazily_nil (go : Bool) (s : σ) : lazily go s [] = ⟨[], .ok go, s⟩ := rfl

theorem lazily_cons_of_ne {go : Bool} {t : Trial σ} (h : t.outcome ≠ .ok go) (s : σ)
    (ts : List (Trial σ)) : lazily go s (t :: ts) = t := by
  have hb : (t.outcome != .ok go) = true := bne_iff_ne.mpr h
  simp [lazily, upTo, List.findIdx_cons, hb]

theorem lazily_cons_of_eq {go : Bool} {t : Trial σ} (h : t.outcome = .ok go) (s : σ)
    (ts : List (Trial σ)) :
    lazily go s (t :: ts) =
      { lazily go t.after ts with calls := t.calls ++ (lazily go t.after ts).calls } := by
  cases ts with
  | nil => simp [lazily, upTo, List.findIdx_cons, h]
  | cons u us => simp [lazily, upTo, List.findIdx_cons, h, List.getLast?_cons]

theorem lazily_outcome_eq_go_iff (go : Bool) (s : σ) (trials : List (Trial σ)) :
    (lazily go s trials).outcome = .ok go ↔ ∀ t ∈ trials, t.outcome = .ok go := by
  induction trials generalizing s with
  | nil => simp
  | cons t ts ih =>
    by_cases h : t.outcome = .ok go
    · simp [lazily_cons_of_eq h, h, ih]
    · simp [lazily_cons_of_ne h, h]

end Trial

def Predicate.trial (p : Predicate σ) (field : Option Json) (value : Json) (s : σ) : Trial σ :=
  let answer := (p.call field value).run s
  ⟨[⟨p, field, value, answer.1⟩], answer.1, answer.2⟩

/-- The trial of a group of candidates: no call without a predicate, and else the candidates in order up
to the first one that is met or fails. -/
def groupTrial (predicate : Option (Predicate σ)) (field : Option Json) (values : List Json) (s : σ) :
    Trial σ :=
  match predicate with
  | none => ⟨[], .ok false, s⟩
  | some p => .lazily false s (Trial.row (p.trial field) values s)

def Condition.trial (registry : Registry σ) (record : Json) (c : Condition σ) (s : σ) : Trial σ :=
  let (predicate, negated) := c.operator.reading registry
  (groupTrial predicate (record.resolve c.field).value? c.value.candidates s).invert negated

namespace Filter

def trials (f : Filter σ) (registry : Registry σ) (record : Json) (s : σ) : List (Trial σ) :=
  Trial.row (Condition.trial registry record) f.conditions s

/-- The trial of a filter on a record: its conditions in order up to the first one that does not hold. -/
def trial (f : Filter σ) (registry : Registry σ) (record : Json) (s : σ) : Trial σ :=
  .lazily true s (f.trials registry record s)

end Filter

/-! ## Observers -/

def Operator.map (g : Predicate σ → Predicate ρ) : Operator σ → Operator ρ
  | named text => named text
  | function predicate => function (g predicate)

def Condition.map (g : Predicate σ → Predicate ρ) (c : Condition σ) : Condition ρ :=
  ⟨c.field, c.operator.map g, c.value⟩

def Filter.map (g : Predicate σ → Predicate ρ) (f : Filter σ) : Filter ρ := ⟨f.conditions.map (·.map g)⟩

def Registry.map (g : Predicate σ → Predicate ρ) (r : Registry σ) : Registry ρ :=
  ⟨r.entries.map fun (name, predicate) => (name, g predicate)⟩

@[simp] theorem Operator.map_id (operator : Operator σ) : operator.map id = operator := by
  cases operator <;> rfl

@[simp] theorem Condition.map_id (c : Condition σ) : c.map id = c := by simp [Condition.map]

@[simp] theorem Filter.map_id (f : Filter σ) : f.map id = f := by simp [Filter.map]

@[simp] theorem Registry.map_id (r : Registry σ) : r.map id = r := by simp [Registry.map]

@[simp] theorem Registry.lookup?_map (g : Predicate σ → Predicate ρ) (r : Registry σ) (name : String) :
    (r.map g).lookup? name = (r.lookup? name).map g := by
  obtain ⟨entries⟩ := r
  simp only [Registry.lookup?, Registry.map]
  induction entries with
  | nil => rfl
  | cons e es ih =>
    obtain ⟨key, predicate⟩ := e
    simp only [List.map_cons, List.lookup_cons]
    cases Text.trim name == key with
    | true => rfl
    | false => exact ih

@[simp] theorem Operator.reading_map (g : Predicate σ → Predicate ρ) (registry : Registry σ)
    (operator : Operator σ) :
    (operator.map g).reading (registry.map g) =
      ((operator.reading registry).1.map g, (operator.reading registry).2) := by
  cases operator <;> simp [Operator.map, Operator.reading]

/-- A way to run predicates in a larger state, next to notes of which each call changes one. -/
structure Observation (σ τ ρ : Type) where
  embed : σ → τ → ρ
  note : τ → Call σ → τ
  lift : Predicate σ → Predicate ρ
  run_lift : ∀ p field value s t, ((lift p).call field value).run (embed s t) =
    let trial := p.trial field value s
    (trial.outcome, embed trial.after (trial.calls.foldl note t))

namespace Observation
variable (o : Observation σ τ ρ)

/-- An evaluation in the larger state goes like a trial in the smaller one. -/
def Follows (m : Eval ρ Bool) (attempt : σ → Trial σ) : Prop :=
  ∀ s t, m.run (o.embed s t) =
    ((attempt s).outcome, o.embed (attempt s).after ((attempt s).calls.foldl o.note t))

/-- A loop that goes on after the outcome `go` and returns any other one follows a lazy row. -/
theorem follows_loop {α : Type} (go : Bool) (loop : List α → Eval ρ Bool) {body : α → Eval ρ Bool}
    {attempt : α → σ → Trial σ} (hnil : loop [] = pure go)
    (hcons : ∀ a as, loop (a :: as) = body a >>= fun b => if b = go then loop as else pure b)
    (hbody : ∀ a, o.Follows (body a) (attempt a)) (as : List α) :
    o.Follows (loop as) fun s => .lazily go s (Trial.row attempt as s) := by
  intro s t
  induction as generalizing s t with
  | nil => simp [hnil, Trial.row]
  | cons a as ih =>
    rw [hcons, Eval.run_bind, hbody]
    simp only [Trial.row]
    by_cases h : (attempt a s).outcome = .ok go
    · rw [Trial.lazily_cons_of_eq h, h]
      simp [ih]
    · rw [Trial.lazily_cons_of_ne h]
      cases ho : (attempt a s).outcome with
      | error e => rfl
      | ok b =>
        have hb : b ≠ go := fun hb => h (by rw [ho, hb])
        simp [hb]

theorem follows_call (p : Predicate σ) (field : Option Json) (value : Json) :
    o.Follows ((o.lift p).call field value) (p.trial field value) := o.run_lift p field value

theorem follows_anyCandidate (p : Predicate σ) (field : Option Json) (values : List Json) :
    o.Follows (anyCandidate (o.lift p) field values) (groupTrial (some p) field values) := by
  refine o.follows_loop false (anyCandidate (o.lift p) field) rfl (fun v vs => ?_)
    (o.follows_call p field) values
  refine bind_congr fun b => ?_
  cases b <;> rfl

theorem Follows.invert {m : Eval ρ Bool} {attempt : σ → Trial σ} (h : o.Follows m attempt)
    (negated : Bool) : o.Follows ((· != negated) <$> m) fun s => (attempt s).invert negated := by
  intro s t
  rw [Eval.run_map, h s t]
  rfl

theorem follows_evaluate (registry : Registry σ) (field : Option Json) (operator : Operator σ)
    (value : ConditionValue) :
    o.Follows (evaluate (registry.map o.lift) field (operator.map o.lift) value) fun s =>
      (groupTrial (operator.reading registry).1 field value.candidates s).invert
        (operator.reading registry).2 := by
  rw [evaluate_eq_reading, Operator.reading_map]
  rcases operator.reading registry with ⟨_ | p, negated⟩
  · have hnone : o.Follows (pure false) (groupTrial none field value.candidates) := fun _ _ => rfl
    simpa using hnone.invert o negated
  · exact (o.follows_anyCandidate p _ _).invert o negated

theorem follows_matches (registry : Registry σ) (record : Json) (c : Condition σ) :
    o.Follows ((c.map o.lift).matches (registry.map o.lift) record) (c.trial registry record) :=
  o.follows_evaluate registry (record.resolve c.field).value? c.operator c.value

/-- A test in the larger state, in which every call is noted, goes like the trial of the filter. -/
theorem follows_test (registry : Registry σ) (f : Filter σ) (record : Json) :
    o.Follows ((f.map o.lift).test (registry.map o.lift) record) (f.trial registry record) := by
  unfold Filter.test Filter.map
  refine o.follows_loop true
    (fun cs => Filter.testAll (registry.map o.lift) record (cs.map (·.map o.lift)))
    rfl (fun c cs => ?_) (o.follows_matches registry record) f.conditions
  refine bind_congr fun b => ?_
  cases b <;> rfl

def plain : Observation σ Unit σ where
  embed s _ := s
  note _ _ := ()
  lift := id
  run_lift _ _ _ _ _ := rfl

def noting (note : τ → Call σ → τ) : Observation σ τ (σ × τ) where
  embed := Prod.mk
  note := note
  lift p := ⟨p.id, fun field value => ExceptT.mk fun (s, t) =>
    let answer := (p.call field value).run s
    (answer.1, answer.2, note t ⟨p, field, value, answer.1⟩)⟩
  run_lift _ _ _ _ _ := rfl

end Observation

/-- Counts the calls of each predicate, by its identity. -/
def tally (counts : Nat → Nat) (c : Call σ) : Nat → Nat := fun id =>
  if c.predicate.id = id then counts id + 1 else counts id

theorem foldl_tally (counts : Nat → Nat) (calls : List (Call σ)) :
    calls.foldl tally counts = fun id => counts id + calls.countP (·.predicate.id == id) := by
  induction calls generalizing counts with
  | nil => rfl
  | cons c cs ih =>
    rw [List.foldl_cons, ih]
    funext id
    by_cases h : c.predicate.id = id
    · simp only [tally, h, ↓reduceIte, List.countP_cons, beq_self_eq_true]
      omega
    · simp [tally, h]

/-- An evaluation in the larger state of an observer, who notes the calls of all predicates. -/
def evaluateNoting (note : τ → Call σ → τ) (registry : Registry σ) (field : Option Json)
    (operator : Operator σ) (value : ConditionValue) : Eval (σ × τ) Bool :=
  let o := Observation.noting note
  evaluate (registry.map o.lift) field (operator.map o.lift) value

/-- Evaluating an operator goes like a trial from every state, and an observer notes the calls of that trial and
no others. -/
structure Operator.RunsAs (operator : Operator σ) (registry : Registry σ) (field : Option Json)
    (value : ConditionValue) (attempt : σ → Trial σ) : Prop where
  run : ∀ s, (evaluate registry field operator value).run s = ((attempt s).outcome, (attempt s).after)
  noted : ∀ (τ : Type) (note : τ → Call σ → τ) (s : σ) (t : τ),
    (evaluateNoting note registry field operator value).run (s, t) =
      ((attempt s).outcome, (attempt s).after, (attempt s).calls.foldl note t)

/-- An operator tries its predicate on the candidates, and perhaps inverts what comes of it. -/
theorem Operator.runsAs_reading (registry : Registry σ) (field : Option Json) (operator : Operator σ)
    (value : ConditionValue) :
    operator.RunsAs registry field value fun s =>
      (groupTrial (operator.reading registry).1 field value.candidates s).invert
        (operator.reading registry).2 where
  run s := by
    have h := Observation.plain.follows_evaluate registry field operator value s ()
    simpa only [Observation.plain, Operator.map_id, Registry.map_id] using h
  noted _ note s t := (Observation.noting note).follows_evaluate registry field operator value s t

/-- A test in the larger state of an observer, who notes the calls of all its predicates. -/
def Filter.testNoting (note : τ → Call σ → τ) (f : Filter σ) (registry : Registry σ) (record : Json) :
    Eval (σ × τ) Bool :=
  let o := Observation.noting note
  (f.map o.lift).test (registry.map o.lift) record

/-- A test has the outcome of the trial of its filter and leaves the same state. An observer notes the
calls of that trial and no others, so that every predicate is called as often as it occurs among them. The
test holds exactly if every condition does, and else has the outcome of the first one that does not. -/
theorem Filter.run_test_eq_trial (registry : Registry σ) (f : Filter σ) (record : Json) (s : σ) :
    let trial := f.trial registry record s
    (f.test registry record).run s = (trial.outcome, trial.after) ∧
    (∀ (τ : Type) (note : τ → Call σ → τ) (t : τ),
      (f.testNoting note registry record).run (s, t) =
        (trial.outcome, trial.after, trial.calls.foldl note t)) ∧
    (∀ counts : Nat → Nat, (f.testNoting tally registry record).run (s, counts) =
        (trial.outcome, trial.after, fun id => counts id + trial.calls.countP (·.predicate.id == id))) ∧
    (trial.outcome = .ok true ↔ ∀ t ∈ f.trials registry record s, t.outcome = .ok true) := by
  intro trial
  have hnoting : ∀ (τ : Type) (note : τ → Call σ → τ) (t : τ),
      (f.testNoting note registry record).run (s, t) =
        (trial.outcome, trial.after, trial.calls.foldl note t) :=
    fun τ note t => (Observation.noting note).follows_test registry f record s t
  refine ⟨?_, hnoting, fun counts => ?_, Trial.lazily_outcome_eq_go_iff true s _⟩
  · have h := Observation.plain.follows_test registry f record s ()
    simpa only [Observation.plain, Filter.map_id, Registry.map_id] using h
  · rw [hnoting, foldl_tally]

/-- Of three candidates the second one is met, and the third one is not tried. -/
example :
    let spy : Predicate Unit := .ofTest 0 Json.fieldStrictEq
    let f : Filter Unit := ⟨[⟨"", .function spy, .any [.string "a", .string "b", .string "c"]⟩]⟩
    (f.trial .empty (.string "b") ()).calls.length = 2 := by
  decide

end Sift
