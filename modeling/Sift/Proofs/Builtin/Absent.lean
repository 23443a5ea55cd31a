import Sift.Pattern.Words
import Sift.Proofs.Builtin.Coercing
import Sift.Proofs.Builtin.Elements
import Sift.Proofs.Builtin.Failures

/-! # Fields that are not there

Each built-in operator has its own way with a field that is not there, and they come to the same: the
coercing equality meets null, and nothing else is met. The pattern operator never meets such a field, so that
it tries all of its candidates and fails on any that is a text and no pattern.
-/
namespace Sift.Builtin
open Text OperatorName

variable {L : PatternLanguage} {σ : Type} {slot : CacheSlot L σ}

/-- The names of the coercing equality. -/
def IsEqualName (name : String) : Prop := name = "equal" ∨ name = "=="

/-- A name of the coercing equality, with null among the candidates. -/
def NamesNull (name : String) (value : ConditionValue) : Prop :=
  IsEqualName name ∧ .null ∈ value.candidates

/-- A name of the pattern operator, with a text that is no pattern among the candidates. -/
def NamesInvalid (L : PatternLanguage) (name : String) (value : ConditionValue) : Prop :=
  IsPatternName name ∧ ∃ source reason, .string source ∈ value.candidates ∧ L.compile source = .error reason

theorem eq_equal_iff {name : String} {op : Op} (h : (name, op) ∈ allNames) : op = .equal ↔ IsEqualName name := by
  have hall : ∀ e ∈ allNames, e.2 = .equal ↔ e.1 = "equal" ∨ e.1 = "==" := by decide +kernel
  exact hall (name, op) h

/-! ## Candidates -/

theorem test_none_iff (op : Op) (v : Json) : op.test none v = true ↔ op = .equal ∧ v = .null := by
  have horder : Json.order? none v = none := by
    cases v <;> rfl
  cases op with
  | greaterThan | greaterThanOrEqual | lessThan | lessThanOrEqual => simp [Op.test, horder]
  | equal => simp [Op.test, Json.looseEq, Json.kind_eq_null_iff]
  | strictEqual => simp [Op.test, Json.fieldStrictEq]
  | startsWith | endsWith => simp [Op.test, onTexts]
  | contains | has | «matches» => simp [Op.test]

theorem matchAfresh_none_ne_true (v : Json) : matchAfresh L none v ≠ .ok true := by
  cases v with
  | string source =>
    rw [matchAfresh]
    cases L.compile source <;> simp
  | null | bool _ | number _ | array _ | object _ => simp [matchAfresh]

/-- A group of candidates meets a field that is not there only by null. -/
theorem outcome_anyCandidate_none_eq_true_iff (hslot : slot.Lawful) {s : σ} (hs : (slot.get s).Sound) (op : Op)
    (candidates : List Json) :
    ((anyCandidate (op.predicate slot) none candidates).run s).1 = .ok true ↔
      op = .equal ∧ .null ∈ candidates := by
  by_cases hop : op = .matches
  · subst hop
    rw [outcome_anyCandidate (steady_predicate hslot .matches) none candidates hs hs,
      settle_map_eq_iff (by simp)]
    refine iff_of_false ?_ (by simp)
    rintro ⟨_, v, _, -, hv, -⟩
    exact matchAfresh_none_ne_true v ((outcome_matchPattern none v hs).symm.trans hv)
  · rw [anyCandidate_predicate slot hop, Eval.run_pure, Except.ok.injEq, List.any_eq_true]
    constructor
    · rintro ⟨v, hv, htest⟩
      obtain ⟨hequal, rfl⟩ := (test_none_iff op v).mp htest
      exact ⟨hequal, hv⟩
    · rintro ⟨hequal, hnull⟩
      exact ⟨.null, hnull, (test_none_iff op .null).mpr ⟨hequal, rfl⟩⟩

/-- Every candidate that is no invalid pattern is passed over, so that the first invalid one is tried. -/
theorem exists_triesInvalid_none_iff {candidates : List Json} :
    (∃ reason, TriesInvalid L none candidates reason) ↔
      ∃ source reason, .string source ∈ candidates ∧ L.compile source = .error reason := by
  constructor
  · rintro ⟨reason, before, source, after, rfl, hinvalid, -⟩
    exact ⟨source, reason, List.mem_append_right before List.mem_cons_self, hinvalid⟩
  · rintro ⟨source, reason, hmem, hinvalid⟩
    induction candidates with
    | nil => exact absurd hmem List.not_mem_nil
    | cons v vs ih =>
      by_cases hv : ∃ t r, v = .string t ∧ L.compile t = .error r
      · obtain ⟨t, r, rfl, ht⟩ := hv
        exact ⟨r, [], t, vs, rfl, ht, List.forall_mem_nil _⟩
      · have hrest : .string source ∈ vs :=
          List.mem_of_ne_of_mem (fun heq => hv ⟨source, reason, heq.symm, hinvalid⟩) hmem
        obtain ⟨r, before, t, after, rfl, ht, hbefore⟩ := ih hrest
        refine ⟨r, v :: before, t, after, rfl, ht, List.forall_mem_cons.mpr ⟨fun u hu => ?_, hbefore⟩⟩
        cases hc : L.compile u with
        | error r' => exact absurd ⟨u, r', hu, hc⟩ hv
        | ok pattern => exact ⟨pattern, rfl, fun text htext => by cases htext⟩

/-! ## Conditions -/

theorem mem_names_iff {name : String} : name ∈ (registry slot).names ↔ ∃ op, (name, op) ∈ allNames := by
  rw [Registry.mem_names]
  constructor
  · rintro ⟨p, hp⟩
    rw [entries_registry] at hp
    obtain ⟨⟨n, op⟩, hentry, heq⟩ := List.mem_map.mp hp
    obtain rfl := (Prod.mk.inj heq).1
    exact ⟨op, hentry⟩
  · rintro ⟨op, hentry⟩
    exact ⟨op.predicate slot, mem_entries slot hentry⟩

section
variable {s : σ} {path name text : String} {record : Json}

/-- The outcome of a condition on a field that is not there, from the name in its operator text. -/
theorem outcome_matches_absent (hslot : slot.Lawful) (hs : (slot.get s).Sound)
    (habsent : record.resolve path = .absent) {op : Op} (hname : (name, op) ∈ allNames) {negated : Bool}
    (hparse : parse text = ⟨name, negated⟩) (value : ConditionValue) :
    let outcome := (((Condition.mk path (.named text) value).matches (registry slot) record).run s).1
    (∀ e, outcome = .error e ↔ ∃ reason, e = .invalidPattern reason ∧ IsPatternName name ∧
      TriesInvalid L none value.candidates reason) ∧
    ∀ b, outcome = .ok b → (b = !negated ↔ NamesNull name value) := by
  intro outcome
  have hlookup : allNames.lookup name = some op := lookup_eq_some_of_mem nodup_allNames hname
  have houtcome : outcome = ((evaluate (registry slot) none (.named text) value).run s).1 := by
    simp only [outcome, Condition.matches, habsent, FieldValue.value?_absent]
  refine ⟨fun e => ?_, fun b hb => ?_⟩
  · rw [houtcome, outcome_evaluate_eq_error_iff hslot hs, hparse]
  · have hgroup := outcome_anyCandidate_none_eq_true_iff hslot hs op value.candidates
    rw [NamesNull, ← eq_equal_iff hname, ← hgroup]
    rw [houtcome, evaluate_eq_reading, reading_named, hparse, hlookup, Option.map_some] at hb
    dsimp only at hb
    rw [Eval.run_map] at hb
    cases ho : ((anyCandidate (op.predicate slot) none value.candidates).run s).1 with
    | error e =>
      rw [ho] at hb
      cases hb
    | ok met =>
      rw [ho] at hb
      obtain rfl := Except.ok.inj hb
      cases met <;> cases negated <;> simp

/-- Where there is no field, a condition with a built-in name fails exactly if the name is that of the pattern
operator and some candidate is a text and no pattern, with or without a marker in front of the name, and with
the reason of the first such candidate. If it does not fail, it holds without a marker exactly if the name is
that of the coercing equality and some candidate is null, and with a marker in the other cases. -/
theorem absent_meets_null_only (hslot : slot.Lawful) (hs : (slot.get s).Sound)
    (habsent : record.resolve path = .absent) (hname : name ∈ (registry slot).names) {u m w x : String}
    (hm : IsMarker m) (hu : AllBlank u) (hw : AllBlank w) (hx : AllBlank x) (value : ConditionValue) :
    let outcome := fun text =>
      (((Condition.mk path (.named text) value).matches (registry slot) record).run s).1
    let plain := outcome (u ++ name ++ x)
    let negated := outcome (u ++ m ++ w ++ name ++ x)
    ((∃ e, plain = .error e) ↔ NamesInvalid L name value) ∧
    (∀ e, negated = .error e ↔ plain = .error e) ∧
    (∀ e, plain = .error e →
      ∃ reason, e = .invalidPattern reason ∧ TriesInvalid L none value.candidates reason) ∧
    (¬ NamesInvalid L name value → ∃ b c, plain = .ok b ∧ negated = .ok c ∧
      (b = true ↔ NamesNull name value) ∧ (c = true ↔ ¬ NamesNull name value)) := by
  intro outcome plain negated
  obtain ⟨op, hentry⟩ := mem_names_iff.mp hname
  have hproper := isProper_of_mem_allNames _ hentry
  obtain ⟨hfails, hholds⟩ :=
    outcome_matches_absent hslot hs habsent hentry (hproper.parse_pad hu hx) value
  obtain ⟨hfails', hholds'⟩ :=
    outcome_matches_absent hslot hs habsent hentry (hproper.parse_marked_pad hm hu hw hx) value
  have hsame : ∀ e, negated = .error e ↔ plain = .error e := fun e => (hfails' e).trans (hfails e).symm
  have hinvalid : (∃ e, plain = .error e) ↔ NamesInvalid L name value := by
    rw [NamesInvalid, ← exists_triesInvalid_none_iff]
    constructor
    · rintro ⟨e, he⟩
      obtain ⟨reason, -, hpattern, htries⟩ := (hfails e).mp he
      exact ⟨hpattern, reason, htries⟩
    · rintro ⟨hpattern, reason, htries⟩
      exact ⟨_, (hfails _).mpr ⟨reason, rfl, hpattern, htries⟩⟩
  refine ⟨hinvalid, hsame, fun e he => ?_, fun hvalid => ?_⟩
  · obtain ⟨reason, he, -, htries⟩ := (hfails e).mp he
    exact ⟨reason, he, htries⟩
  · cases hp : plain with
    | error e => exact absurd (hinvalid.mp ⟨e, hp⟩) hvalid
    | ok b =>
      cases hn : negated with
      | error e => cases hp.symm.trans ((hsame e).mp hn)
      | ok c =>
        refine ⟨b, c, rfl, rfl, hholds b hp, ?_⟩
        rw [← hholds' c hn, Bool.not_true, Bool.not_eq_false]

end

/-- A text that is no pattern is tried behind null and a pattern, and null is found behind a number: the title
is a text and has no members. -/
theorem absent_meets_null_only_titled :
    let slot := CacheSlot.whole .words
    let record : Json := .object [("title", .string "x")]
    let outcome := fun text values =>
      (((Condition.mk "title.b" (.named text) (.any values)).matches (registry slot) record).run .empty).1
    slot.Lawful ∧ (slot.get .empty).Sound ∧ record.resolve "title.b" = .absent ∧
    "regexp" ∈ (registry slot).names ∧ "==" ∈ (registry slot).names ∧
    IsMarker "NoT " ∧ AllBlank "\t" ∧ AllBlank " " ∧ AllBlank "" ∧
    outcome ("\t" ++ "regexp" ++ "") [.null, .string "x", .string "("] =
      .error (.invalidPattern (unclosed "(")) ∧
    outcome ("\t" ++ "NoT " ++ " " ++ "regexp" ++ "") [.null, .string "x", .string "("] =
      .error (.invalidPattern (unclosed "(")) ∧
    outcome ("\t" ++ "==" ++ "") [.number (.signed 0), .null] = .ok true ∧
    outcome ("\t" ++ "NoT " ++ " " ++ "==" ++ "") [.number (.signed 0), .null] = .ok false := by
  intro slot record outcome
  have hslot : slot.Lawful := CacheSlot.lawful_whole .words
  have hs : (slot.get .empty).Sound := PatternCache.sound_empty
  have habsent : record.resolve "title.b" = .absent := by rfl
  have hregexp : "regexp" ∈ (registry slot).names := mem_names_iff.mpr ⟨.matches, by decide +kernel⟩
  have hequal : "==" ∈ (registry slot).names := mem_names_iff.mpr ⟨.equal, by decide +kernel⟩
  have hmarker : IsMarker "NoT " := .inr (by decide)
  have htab : AllBlank "\t" := by decide
  have hspace : AllBlank " " := by decide
  have hempty : AllBlank "" := by decide
  have hplain : outcome ("\t" ++ "regexp" ++ "") [.null, .string "x", .string "("] =
      .error (.invalidPattern (unclosed "(")) := by decide +kernel
  have hvalid : ¬ NamesInvalid .words "==" (.any [.number (.signed 0), .null]) := by
    rintro ⟨hname | hname, -⟩ <;> exact absurd hname (by decide)
  have hnull : NamesNull "==" (.any [.number (.signed 0), .null]) :=
    ⟨.inr rfl, by simp [ConditionValue.candidates]⟩
  obtain ⟨-, hsame, -⟩ := absent_meets_null_only hslot hs habsent hregexp hmarker htab hspace hempty
    (.any [.null, .string "x", .string "("])
  obtain ⟨-, -, -, hholds⟩ := absent_meets_null_only hslot hs habsent hequal hmarker htab hspace hempty _
  obtain ⟨b, c, hb, hc, hbnull, hcnull⟩ := hholds hvalid
  obtain rfl : b = true := hbnull.mpr hnull
  obtain rfl : c = false := Bool.eq_false_iff.mpr fun htrue => hcnull.mp htrue hnull
  exact ⟨hslot, hs, habsent, hregexp, hequal, hmarker, htab, hspace, hempty, hplain, (hsame _).mpr hplain,
    hb, hc⟩

end Sift.Builtin
