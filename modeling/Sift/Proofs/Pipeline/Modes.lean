import Sift.Pattern.Words
import Sift.Proofs.Builtin.Steady
import Sift.Proofs.Filter.First
import Sift.Proofs.Pipeline.Stages

/-! # The three modes of printing

A run prints the kept records, their number, or the first of them. All conditions that a run can state name
their operator, so its filter is steady and what is printed goes by the verdicts on the single records. The
modes differ in one case: a search for the first kept record does not meet an error behind it.
-/
namespace Sift

section
variable {verdict : Json → Except FilterError Bool} {polarity : Polarity} {records : List Json}

theorem exists_of_firstError? {e : FilterError} (h : firstError? verdict records = some e) :
    ∃ record ∈ records, verdict record = .error e := by
  obtain ⟨record, hmem, hrecord⟩ := List.exists_of_findSome?_eq_some h
  refine ⟨record, hmem, errorOf?_eq_some_iff.mp ?_⟩
  rw [← hrecord]
  cases verdict record <;> rfl

/-- What is kept are records, in their order. -/
theorem sublist_of_matchingBy {kept : List (Json × Nat)}
    (h : matchingBy verdict polarity records = .ok kept) : (kept.map Prod.fst).Sublist records := by
  obtain ⟨rfl, -⟩ := verdict_ok_of_matchingBy h
  have hsublist : (keptBy verdict polarity records.zipIdx).Sublist records.zipIdx := List.filter_sublist
  simpa only [List.zipIdx_map_fst] using hsublist.map Prod.fst

/-- A search that finds nothing tests every record. -/
theorem verdict_ok_of_firstBy_none (h : firstBy verdict polarity records.zipIdx = .ok none) :
    ∀ record ∈ records, ∃ b, verdict record = .ok b := by
  intro record hmem
  obtain ⟨i, hi⟩ := List.mem_iff_getElem?.mp hmem
  cases hfind : records.zipIdx.find? fun r => verdict r.1 != .ok polarity.dropped with
  | none =>
    have hdropped := List.find?_eq_none.mp hfind (record, i) (List.mk_mem_zipIdx_iff_getElem?.mpr hi)
    exact ⟨polarity.dropped, by simpa using hdropped⟩
  | some r =>
    simp only [firstBy, hfind] at h
    cases hv : verdict r.1 <;> simp [hv, Except.map] at h

/-- Where the search succeeds although a test fails, it ends before the failing record. -/
theorem exists_found_before {e : FilterError} {found : Option (Json × Nat)}
    (hfound : firstBy verdict polarity records.zipIdx = .ok found)
    (herror : firstError? verdict records = some e) :
    ∃ record i later j, found = some (record, i) ∧ i < j ∧ records[i]? = some record ∧
      records[j]? = some later ∧ verdict later = .error e := by
  obtain ⟨later, hlater, he⟩ := exists_of_firstError? herror
  obtain ⟨j, hj⟩ := List.mem_iff_getElem?.mp hlater
  cases found with
  | none =>
    obtain ⟨b, hb⟩ := verdict_ok_of_firstBy_none hfound later hlater
    cases hb.symm.trans he
  | some r =>
    obtain ⟨record, i⟩ := r
    obtain ⟨hi, ⟨b, hb, -⟩, hbefore⟩ := firstBy_eq_some_iff.mp hfound
    refine ⟨record, i, later, j, rfl, ?_, hi, hj, he⟩
    by_contra hle
    rcases Nat.lt_or_eq_of_le (Nat.le_of_not_lt hle) with hlt | rfl
    · obtain ⟨hlen, rfl⟩ := List.getElem?_eq_some_iff.mp hj
      obtain ⟨b', hb', -⟩ := hbefore _ (List.mem_take_iff_getElem.mpr ⟨j, by omega, rfl⟩)
      cases hb'.symm.trans he
    · obtain rfl := Option.some.inj (hi.symm.trans hj)
      cases hb.symm.trans he

/-- An error that ends the search is that of matching. -/
theorem matchingBy_eq_error_of_firstBy {e : FilterError}
    (h : firstBy verdict polarity records.zipIdx = .error e) :
    matchingBy verdict polarity records = .error e := by
  have hfirst := firstError?_of_firstBy h
  rw [List.zipIdx_map_fst] at hfirst
  exact matchingBy_eq_error_iff.mpr hfirst

end

section
variable {ε ε' α β : Type} {o : Except ε α} {f : α → β} {g : ε → ε'}

theorem mapError_map_eq_ok_iff {b : β} : (o.map f).mapError g = .ok b ↔ ∃ a, o = .ok a ∧ f a = b :=
  mapError_eq_ok_iff.trans map_eq_ok_iff

theorem mapError_map_eq_error_iff {e : ε'} :
    (o.map f).mapError g = .error e ↔ ∃ e', o = .error e' ∧ g e' = e := by
  simp only [mapError_eq_error_iff, map_eq_error_iff]

end

theorem Json.items_eq_nil_of_kind_ne {v : Json} (h : v.kind ≠ .array) : v.items = [] := by
  cases v with
  | array xs => exact absurd rfl h
  | _ => rfl

namespace Run

/-- The verdict on a record of a filter with the built-in operators. -/
def verdict {L : PatternLanguage} (conditions : List (Condition (PatternCache L))) (record : Json) :
    Except FilterError Bool :=
  Filter.verdict ⟨conditions⟩ (Builtin.registry (.whole L)) .empty record

/-- All conditions name their operator. -/
def AllNamed {σ : Type} (conditions : List (Condition σ)) : Prop :=
  ∀ c ∈ conditions, ∃ name, c.operator = .named name

section
variable {L : PatternLanguage} {conditions : List (Condition (PatternCache L))}

theorem AllNamed.steady (h : AllNamed conditions) :
    Filter.Steady (fun s => ((CacheSlot.whole L).get s).Sound) (Builtin.registry (.whole L)) ⟨conditions⟩ := by
  refine Builtin.steady_filter (CacheSlot.lawful_whole L) fun c hc p hp => ?_
  obtain ⟨name, hname⟩ := h c hc
  cases hname.symm.trans hp

theorem AllNamed.outcome_matching (h : AllNamed conditions) (polarity : Polarity) (records : List Json) :
    ((Filter.matching ⟨conditions⟩ (Builtin.registry (.whole L)) polarity records).run .empty).1 =
      matchingBy (verdict conditions) polarity records :=
  h.steady.outcome_matching polarity PatternCache.sound_empty PatternCache.sound_empty records

theorem AllNamed.outcome_first (h : AllNamed conditions) (polarity : Polarity) (records : List Json) :
    ((Filter.first ⟨conditions⟩ (Builtin.registry (.whole L)) polarity records).run .empty).1 =
      firstBy (verdict conditions) polarity records.zipIdx :=
  h.steady.outcome_first polarity PatternCache.sound_empty PatternCache.sound_empty records

end

section
variable {L : Libraries} {conditions : List (Condition (PatternCache L.patterns))}

theorem filtered_all (h : AllNamed conditions) (polarity : Polarity) (format : OutputFormat)
    (records : Json) :
    filtered L conditions polarity .all format records =
      (matchingBy (verdict conditions) polarity records.items).map fun kept =>
        render L format (.array (kept.map Prod.fst)) := by
  rw [← h.outcome_matching, filtered, output, ← map_eq_pure_bind, Eval.run_map]

theorem filtered_count (h : AllNamed conditions) (polarity : Polarity) (format : OutputFormat)
    (records : Json) :
    filtered L conditions polarity .count format records =
      (matchingBy (verdict conditions) polarity records.items).map fun kept => kept.length.repr ++ "\n" := by
  rw [← h.outcome_matching, filtered, output, ← map_eq_pure_bind, Eval.run_map]
  rfl

theorem filtered_first (h : AllNamed conditions) (polarity : Polarity) (format : OutputFormat)
    (records : Json) :
    filtered L conditions polarity .first format records =
      (firstBy (verdict conditions) polarity records.items.zipIdx).map fun found =>
        render L format ((found.map Prod.fst).getD .null) := by
  rw [← h.outcome_first, filtered, output, ← map_eq_pure_bind, Eval.run_map]

end

end Run

namespace Arguments
open Run

/-- The same command line with another mode. -/
def inMode (a : Arguments) (mode : Mode) : Arguments :=
  { a with first := mode = .first, count := mode = .count }

@[simp] theorem ofArguments_inMode (a : Arguments) (mode : Mode) :
    Mode.ofArguments (a.inMode mode) = mode := by
  cases mode <;> rfl

variable {L : Libraries} {a : Arguments} {inputs : Inputs}

/-- What a run prints, or why it fails, by its setting and its records. -/
theorem run_eq : a.run L inputs = match a.setting L inputs, loadRecords L inputs a.recordsFile? with
    | .error e, _ => .error (.conditions e)
    | .ok _, .error e => .error e
    | .ok (conditions, polarity), .ok records =>
      (filtered L conditions polarity (.ofArguments a) a.format records).mapError .filter := by
  rw [run, run_execute]
  cases a.setting L inputs with
  | error e => rfl
  | ok s =>
    cases loadRecords L inputs a.recordsFile? with
    | error e => rfl
    | ok records =>
      cases hout : filtered L s.1 s.2 (.ofArguments a) a.format records <;>
        simp [hout, finish, Except.mapError]

theorem run_eq_ok_iff {text : String} :
    a.run L inputs = .ok text ↔ ∃ conditions polarity records, a.setting L inputs = .ok (conditions, polarity) ∧
      loadRecords L inputs a.recordsFile? = .ok records ∧
      filtered L conditions polarity (.ofArguments a) a.format records = .ok text := by
  rw [run_eq]
  cases a.setting L inputs with
  | error e => simp
  | ok s =>
    cases loadRecords L inputs a.recordsFile? with
    | error e => simp
    | ok records =>
      cases hout : filtered L s.1 s.2 (.ofArguments a) a.format records <;>
        simp [hout, Except.mapError, Prod.ext_iff]

/-- Every condition that a run states names its operator. -/
theorem allNamed_of_setting {conditions : List (Condition (PatternCache L.patterns))} {polarity : Polarity}
    (h : a.setting L inputs = .ok (conditions, polarity)) : AllNamed conditions := by
  unfold setting at h
  cases hfile : loadConditions L inputs a.config with
  | error e =>
    rw [hfile] at h
    cases h
  | ok file =>
    cases hspecs : a.expressions.mapM (ConditionSpec.parse L.json) with
    | error e =>
      rw [hfile, hspecs] at h
      cases h
    | ok specs =>
      rw [hfile, hspecs] at h
      cases h
      intro c hc
      rw [filterOf, ConditionsFile.conditions, ← List.map_append, List.mem_map] at hc
      obtain ⟨spec, -, rfl⟩ := hc
      exact ⟨spec.operator, rfl⟩

/-- A run either fails before it filters, in every mode alike, or filters one row of records by one setting
in every mode. -/
theorem run_inMode_cases (L : Libraries) (a : Arguments) (inputs : Inputs) :
    (∃ e, ∀ mode, (a.inMode mode).run L inputs = .error e) ∨
    ∃ conditions polarity records, a.setting L inputs = .ok (conditions, polarity) ∧
      loadRecords L inputs a.recordsFile? = .ok records ∧ AllNamed conditions ∧
      ∀ mode, (a.inMode mode).run L inputs =
        (filtered L conditions polarity mode a.format records).mapError .filter := by
  have hrun : ∀ mode, (a.inMode mode).run L inputs =
      match a.setting L inputs, loadRecords L inputs a.recordsFile? with
      | .error e, _ => .error (.conditions e)
      | .ok _, .error e => .error e
      | .ok (conditions, polarity), .ok records =>
        (filtered L conditions polarity mode a.format records).mapError .filter := by
    intro mode
    rw [run_eq, ofArguments_inMode]
    rfl
  cases hsetting : a.setting L inputs with
  | error e => exact .inl ⟨.conditions e, fun mode => by rw [hrun, hsetting]⟩
  | ok s =>
    cases hrecords : loadRecords L inputs a.recordsFile? with
    | error e => exact .inl ⟨e, fun mode => by rw [hrun, hsetting, hrecords]⟩
    | ok records =>
      exact .inr ⟨s.1, s.2, records, rfl, rfl, allNamed_of_setting hsetting,
        fun mode => by rw [hrun, hsetting, hrecords]⟩

/-- A run that lists the kept records and one that counts them fail alike. If they succeed, the list is a
subsequence of the records, the count is its length, and what is printed first is its head. A search fails
only as the list does; where it succeeds and the list does not, it has found a record before the one on which
the list fails. -/
theorem modes_agree (L : Libraries) (a : Arguments) (inputs : Inputs) :
    let plain := (a.inMode .all).run L inputs
    let counted := (a.inMode .count).run L inputs
    let first := (a.inMode .first).run L inputs
    (∀ e, plain = .error e ↔ counted = .error e) ∧
    (∀ text, plain = .ok text → ∃ records kept, loadRecords L inputs a.recordsFile? = .ok records ∧
      kept.Sublist records.items ∧ (records.kind ≠ .array → kept = []) ∧
      text = render L a.format (.array kept) ∧ counted = .ok (kept.length.repr ++ "\n") ∧
      first = .ok (render L a.format (kept.head?.getD .null))) ∧
    (∀ e, first = .error e → plain = .error e) ∧
    (∀ text e, first = .ok text → plain = .error e →
      ∃ conditions polarity records record later error, ∃ i j : Nat,
        a.setting L inputs = .ok (conditions, polarity) ∧ loadRecords L inputs a.recordsFile? = .ok records ∧
        records.items[i]? = some record ∧ text = render L a.format record ∧
        i < j ∧ records.items[j]? = some later ∧ Run.verdict conditions later = .error error ∧
        e = .filter error) := by
  intro plain counted first
  rcases run_inMode_cases L a inputs with
    ⟨e, hrun⟩ | ⟨conditions, polarity, records, hsetting, hrecords, hnamed, hrun⟩
  · have hplain : plain = .error e := hrun .all
    have hcounted : counted = .error e := hrun .count
    have hfirst : first = .error e := hrun .first
    rw [hplain, hcounted, hfirst]
    exact ⟨fun _ => Iff.rfl, nofun, fun _ h => h, nofun⟩
  · have hplain : plain = ((matchingBy (Run.verdict conditions) polarity records.items).map fun kept =>
        render L a.format (.array (kept.map Prod.fst))).mapError .filter :=
      (hrun .all).trans (by rw [filtered_all hnamed])
    have hcounted : counted = ((matchingBy (Run.verdict conditions) polarity records.items).map fun kept =>
        kept.length.repr ++ "\n").mapError .filter :=
      (hrun .count).trans (by rw [filtered_count hnamed])
    have hfirst : first = ((firstBy (Run.verdict conditions) polarity records.items.zipIdx).map fun found =>
        render L a.format ((found.map Prod.fst).getD .null)).mapError .filter :=
      (hrun .first).trans (by rw [filtered_first hnamed])
    rw [hplain, hcounted, hfirst]
    refine ⟨fun e => ?_, fun text htext => ?_, fun e he => ?_, fun text e htext he => ?_⟩
    · rw [mapError_map_eq_error_iff, mapError_map_eq_error_iff]
    · obtain ⟨kept, hkept, rfl⟩ := mapError_map_eq_ok_iff.mp htext
      have hsublist := sublist_of_matchingBy hkept
      refine ⟨records, kept.map Prod.fst, hrecords, hsublist, fun hkind => ?_, rfl,
        mapError_map_eq_ok_iff.mpr ⟨kept, hkept, by rw [List.length_map]⟩,
        mapError_map_eq_ok_iff.mpr ⟨kept.head?, firstBy_of_matchingBy hkept, by rw [List.head?_map]⟩⟩
      rw [Json.items_eq_nil_of_kind_ne hkind] at hsublist
      exact List.sublist_nil.mp hsublist
    · obtain ⟨error, herror, rfl⟩ := mapError_map_eq_error_iff.mp he
      exact mapError_map_eq_error_iff.mpr ⟨error, matchingBy_eq_error_of_firstBy herror, rfl⟩
    · obtain ⟨found, hfound, rfl⟩ := mapError_map_eq_ok_iff.mp htext
      obtain ⟨error, herror, rfl⟩ := mapError_map_eq_error_iff.mp he
      obtain ⟨record, i, later, j, rfl, hlt, hi, hj, hlater⟩ :=
        exists_found_before hfound (matchingBy_eq_error_iff.mp herror)
      exact ⟨conditions, polarity, records, record, later, error, i, j, hsetting, hrecords, hi, rfl, hlt, hj,
        hlater, rfl⟩

/-- The pattern that is none is a candidate for the second record only, and the search ends before it. -/
theorem modes_agree_diverging :
    let L : Libraries := { Libraries.bundled with patterns := .words }
    let a : Arguments := { empty with expressions := ["name|matches|[\"a\", \"(\"]"] }
    let inputs : Inputs :=
      ⟨fun path => .error path, .ok "[\x7b\"name\": \"a\"\x7d, \x7b\"name\": \"b\"\x7d]".toUTF8⟩
    (a.inMode .first).run L inputs = .ok "\x7b\n  \"name\": \"a\"\n\x7d\n" ∧
    (a.inMode .all).run L inputs = .error (.filter (.invalidPattern (unclosed "("))) ∧
    (a.inMode .count).run L inputs = .error (.filter (.invalidPattern (unclosed "("))) ∧
    ∃ (conditions : List (Condition (PatternCache L.patterns))) (later : Json),
      Run.verdict conditions later = .error (.invalidPattern (unclosed "(")) := by
  intro L a inputs
  have hfirst : (a.inMode .first).run L inputs = .ok "\x7b\n  \"name\": \"a\"\n\x7d\n" := by
    decide +kernel
  have hplain : (a.inMode .all).run L inputs = .error (.filter (.invalidPattern (unclosed "("))) := by
    decide +kernel
  obtain ⟨hcount, -, -, hbehind⟩ := modes_agree L a inputs
  obtain ⟨conditions, -, -, -, later, error, -, -, -, -, -, -, -, -, hlater, herror⟩ := hbehind _ _ hfirst hplain
  cases herror
  exact ⟨hfirst, hplain, (hcount _).mp hplain, conditions, later, hlater⟩

end Arguments
end Sift
