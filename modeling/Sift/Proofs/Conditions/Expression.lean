import Sift.Conditions.Expression
import Sift.Proofs.Conditions.Document
import Sift.Proofs.Text.Trim

/-! # What an expression states

An expression has three parts with bars between them; bars that follow belong to the value. A condition that is
written so is read again, and it is the same condition as that of its three items in a document.
-/
namespace Sift.ConditionSpec
open Text

def expression (field operator value : String) : String := field ++ "|" ++ operator ++ "|" ++ value

/-- The first two parts hold no bar, so a text has its parts in at most one way. -/
structure Parts (text field operator value : String) : Prop where
  eq_expression : text = expression field operator value
  field_bare : '|' ∉ field.toList
  operator_bare : '|' ∉ operator.toList

/-- What three parts state: the trimmed field or none, the operator as it is written, and the value that the whole
of the last part is as JSON, or that part as a text. -/
structure Expressed (J : JsonCodec) (field operator value : String) (spec : ConditionSpec) : Prop where
  field_none : AllBlank field → spec.field = none
  field_some : ¬ AllBlank field → spec.field = some (trim field)
  operator_eq : spec.operator = operator
  value_json : ∀ v, J.parse value = .ok v → spec.value = v
  value_text : ∀ reason, J.parse value = .error reason → spec.value = .string value

/-! ## Parts -/

theorem toList_expression (field operator value : String) :
    (expression field operator value).toList =
      field.toList ++ '|' :: (operator.toList ++ '|' :: value.toList) := by
  simp [expression]

theorem Parts.toList_eq {text field operator value : String} (h : Parts text field operator value) :
    text.toList = field.toList ++ '|' :: (operator.toList ++ '|' :: value.toList) := by
  rw [h.eq_expression, toList_expression]

theorem parts_ofList {text : String} {field operator value : List Char}
    (htext : text.toList = field ++ '|' :: (operator ++ '|' :: value)) (hfield : '|' ∉ field)
    (hoperator : '|' ∉ operator) :
    Parts text (String.ofList field) (String.ofList operator) (String.ofList value) where
  eq_expression := by
    rw [← String.toList_inj, htext, toList_expression]
    simp only [String.toList_ofList]
  field_bare := by rwa [String.toList_ofList]
  operator_bare := by rwa [String.toList_ofList]

theorem exists_parts_iff {text : String} :
    (∃ field operator value, Parts text field operator value) ↔ 2 ≤ text.toList.count '|' := by
  constructor
  · rintro ⟨field, operator, value, h⟩
    rw [h.toList_eq]
    simp only [List.count_append, List.count_cons_self]
    omega
  · intro h
    have hbar : '|' ∈ text.toList := List.count_pos_iff.mp (by omega)
    obtain ⟨field, rest, htext, hfield⟩ := List.eq_append_cons_of_mem hbar
    have hcount : 1 ≤ rest.count '|' := by
      rw [htext, List.count_append, List.count_eq_zero_of_not_mem hfield, List.count_cons_self] at h
      omega
    obtain ⟨operator, value, rfl, hoperator⟩ := List.eq_append_cons_of_mem (List.count_pos_iff.mp hcount)
    exact ⟨_, _, _, parts_ofList htext hfield hoperator⟩

/-! ## Reading -/

variable {J : JsonCodec}

theorem Expressed.unique {field operator value : String} {a b : ConditionSpec}
    (ha : a.Expressed J field operator value) (hb : b.Expressed J field operator value) : a = b := by
  obtain ⟨afield, aoperator, avalue⟩ := a
  obtain ⟨bfield, boperator, bvalue⟩ := b
  have hfield : afield = bfield := by
    by_cases hblank : AllBlank field
    · exact (ha.field_none hblank).trans (hb.field_none hblank).symm
    · exact (ha.field_some hblank).trans (hb.field_some hblank).symm
  have hoperator : aoperator = boperator := ha.operator_eq.trans hb.operator_eq.symm
  have hvalue : avalue = bvalue := by
    cases hread : J.parse value with
    | error reason => exact (ha.value_text _ hread).trans (hb.value_text _ hread).symm
    | ok v => exact (ha.value_json v hread).trans (hb.value_json v hread).symm
  rw [hfield, hoperator, hvalue]

theorem isEmpty_trimChars_iff {s : String} : (trimChars s.toList).isEmpty = true ↔ AllBlank s := by
  rw [List.isEmpty_iff, ← trim_eq_empty_iff, ← String.toList_inj, toList_trim]
  rfl

/-- Where the two bars are found. -/
theorem Parts.cut?_eq {text field operator value : String} (h : Parts text field operator value) :
    cut? '|' text.toList = some (field.toList, operator.toList ++ '|' :: value.toList) ∧
    cut? '|' (operator.toList ++ '|' :: value.toList) = some (operator.toList, value.toList) :=
  ⟨cut?_eq_some_iff.mpr ⟨h.toList_eq, h.field_bare⟩, cut?_eq_some_iff.mpr ⟨rfl, h.operator_bare⟩⟩

theorem Parts.unique {text field operator value field' operator' value' : String}
    (h : Parts text field operator value) (h' : Parts text field' operator' value') :
    field = field' ∧ operator = operator' ∧ value = value' := by
  obtain ⟨hfirst, hsecond⟩ := h.cut?_eq
  obtain ⟨hfirst', hsecond'⟩ := h'.cut?_eq
  obtain ⟨hfield, hrest⟩ := Prod.mk.inj (Option.some.inj (hfirst.symm.trans hfirst'))
  rw [hrest, hsecond'] at hsecond
  obtain ⟨hoperator, hvalue⟩ := Prod.mk.inj (Option.some.inj hsecond)
  exact ⟨String.toList_inj.mp hfield, String.toList_inj.mp hoperator.symm, String.toList_inj.mp hvalue.symm⟩

theorem Parts.parse_eq {text field operator value : String} (h : Parts text field operator value)
    (hoperator : ¬ AllBlank operator) :
    parse J text =
      .ok ⟨if AllBlank field then none else some (trim field), operator, valueOfText J value⟩ := by
  obtain ⟨hfirst, hsecond⟩ := h.cut?_eq
  unfold parse
  rw [hfirst]
  dsimp only
  rw [hsecond]
  dsimp only
  rw [if_neg (isEmpty_trimChars_iff.not.mpr hoperator), String.ofList_toList, String.ofList_toList,
    if_congr isEmpty_trimChars_iff rfl rfl]
  rfl

theorem Parts.exists_parse {text field operator value : String} (h : Parts text field operator value)
    (hoperator : ¬ AllBlank operator) :
    ∃ spec, parse J text = .ok spec ∧ spec.Expressed J field operator value := by
  refine ⟨_, h.parse_eq hoperator, fun hblank => if_pos hblank, fun hblank => if_neg hblank, rfl, ?_, ?_⟩
  · intro v hv
    dsimp only
    rw [valueOfText, hv]
    rfl
  · intro reason hreason
    dsimp only
    rw [valueOfText, hreason]
    rfl

theorem parse_of_not_parts {text : String}
    (h : ¬ ∃ field operator value, Parts text field operator value ∧ ¬ AllBlank operator) :
    parse J text = .error (.invalidExpression text) := by
  unfold parse
  split
  · rfl
  · next field rest hfirst =>
    split
    · rfl
    · next operator value hsecond =>
      obtain ⟨htext, hfield⟩ := cut?_eq_some_iff.mp hfirst
      obtain ⟨rfl, hoperator⟩ := cut?_eq_some_iff.mp hsecond
      have hblank : AllBlank (String.ofList operator) := by
        by_contra hblank
        exact h ⟨_, _, _, parts_ofList htext hfield hoperator, hblank⟩
      rw [← isEmpty_trimChars_iff, String.toList_ofList] at hblank
      exact if_pos hblank

theorem parse_eq_ok_iff {text : String} {spec : ConditionSpec} :
    parse J text = .ok spec ↔ ∃ field operator value, Parts text field operator value ∧ ¬ AllBlank operator ∧
      spec.Expressed J field operator value := by
  constructor
  · intro h
    by_cases hparts : ∃ field operator value, Parts text field operator value ∧ ¬ AllBlank operator
    · obtain ⟨field, operator, value, hparts, hoperator⟩ := hparts
      obtain ⟨spec', hspec', hexpressed⟩ := hparts.exists_parse hoperator
      obtain rfl : spec' = spec := Except.ok.inj (hspec'.symm.trans h)
      exact ⟨field, operator, value, hparts, hoperator, hexpressed⟩
    · rw [parse_of_not_parts hparts] at h
      cases h
  · rintro ⟨field, operator, value, hparts, hoperator, hspec⟩
    obtain ⟨spec', hspec', hexpressed⟩ := hparts.exists_parse hoperator
    rw [hspec', hexpressed.unique hspec]

theorem parse_eq_error_iff {text : String} {e : ConditionsError} :
    parse J text = .error e ↔ e = .invalidExpression text ∧
      ¬ ∃ field operator value, Parts text field operator value ∧ ¬ AllBlank operator := by
  constructor
  · intro h
    have hparts : ¬ ∃ field operator value, Parts text field operator value ∧ ¬ AllBlank operator := by
      rintro ⟨field, operator, value, hparts, hoperator⟩
      obtain ⟨spec, hspec, -⟩ := hparts.exists_parse hoperator
      rw [hspec] at h
      cases h
    rw [parse_of_not_parts hparts] at h
    exact ⟨(Except.error.inj h).symm, hparts⟩
  · rintro ⟨rfl, hparts⟩
    exact parse_of_not_parts hparts

/-! ## Writing -/

/-- The field and the operator of a condition that can be written between bars. -/
structure Writable (spec : ConditionSpec) : Prop where
  field : ∀ f ∈ spec.field, f ≠ "" ∧ trim f = f ∧ '|' ∉ f.toList
  operator_bare : '|' ∉ spec.operator.toList
  operator_some : ¬ AllBlank spec.operator

variable {spec : ConditionSpec}

theorem Writable.parts (h : spec.Writable) (value : String) :
    Parts (expression (spec.field.getD "") spec.operator value) (spec.field.getD "") spec.operator value where
  eq_expression := rfl
  field_bare := by
    cases hfield : spec.field with
    | none => exact List.not_mem_nil
    | some f => exact (h.field f hfield).2.2
  operator_bare := h.operator_bare

theorem Writable.expressed (h : spec.Writable) {value : String} (hvalue : J.parse value = .ok spec.value) :
    spec.Expressed J (spec.field.getD "") spec.operator value where
  field_none hblank := by
    cases hfield : spec.field with
    | none => rfl
    | some f =>
      obtain ⟨hne, htrim, -⟩ := h.field f hfield
      rw [hfield, Option.getD_some, ← trim_eq_empty_iff, htrim] at hblank
      exact absurd hblank hne
  field_some hblank := by
    cases hfield : spec.field with
    | none =>
      rw [hfield] at hblank
      exact absurd (List.forall_mem_nil _) hblank
    | some f => exact congrArg some (h.field f hfield).2.1.symm
  operator_eq := rfl
  value_json v hv := Except.ok.inj (hvalue.symm.trans hv)
  value_text reason hreason := by
    rw [hreason] at hvalue
    cases hvalue

theorem ofJson?_toJson (h : spec.value.canonical = spec.value) :
    ConditionsFile.ofJson? (.object [("conditions", .array [spec.toJson])]) = some ⟨none, [spec]⟩ := by
  have hencoding : ConditionsFile.IsEncoding ⟨none, [spec]⟩ [("conditions", .array [spec.toJson])] :=
    .inr ⟨rfl, rfl⟩
  exact ConditionsFile.ofJson?_eq_some_iff.mpr (hencoding.stated (List.forall_mem_singleton.mpr h))

/-- A text has parts exactly if it holds two bars or more. It is accepted exactly if it has parts and its operator
is not blank, and it then states what its parts state; every other text is refused with the error that carries it.
A condition with a value that is read back from its text is read back from its expression, and a document with its
three items, the field null or empty if there is none, states the same condition. -/
theorem parse_by_parts (J : JsonCodec) :
    (∀ text, (∃ field operator value, Parts text field operator value) ↔ 2 ≤ text.toList.count '|') ∧
    (∀ text, (∃ spec, parse J text = .ok spec) ↔
      ∃ field operator value, Parts text field operator value ∧ ¬ AllBlank operator) ∧
    (∀ text field operator value spec, Parts text field operator value → parse J text = .ok spec →
      spec.Expressed J field operator value) ∧
    (∀ text e, parse J text = .error e ↔ e = .invalidExpression text ∧
      ¬ ∃ field operator value, Parts text field operator value ∧ ¬ AllBlank operator) ∧
    ∀ spec : ConditionSpec, spec.Writable → J.parse (J.compact spec.value) = .ok spec.value →
      parse J (expression (spec.field.getD "") spec.operator (J.compact spec.value)) = .ok spec ∧
      ∀ field : Option String, field.getD "" = spec.field.getD "" → ∀ σ : Type, ∃ file,
        ConditionsFile.ofJson? (.object [("conditions", .array [toJson ⟨field, spec.operator, spec.value⟩])]) =
          some file ∧ (file.conditions : List (Condition σ)) = [spec.toCondition] := by
  refine ⟨fun _ => exists_parts_iff, fun text => ⟨?_, ?_⟩, ?_, fun _ _ => parse_eq_error_iff,
    fun spec hspec hvalue => ⟨?_, fun field hfield σ => ?_⟩⟩
  · rintro ⟨spec, hspec⟩
    obtain ⟨field, operator, value, hparts, hoperator, -⟩ := parse_eq_ok_iff.mp hspec
    exact ⟨field, operator, value, hparts, hoperator⟩
  · rintro ⟨field, operator, value, hparts, hoperator⟩
    obtain ⟨spec, hspec, -⟩ := hparts.exists_parse hoperator
    exact ⟨spec, hspec⟩
  · intro text field operator value spec hparts hspec
    obtain ⟨_, _, _, hparts', -, hexpressed⟩ := parse_eq_ok_iff.mp hspec
    obtain ⟨rfl, rfl, rfl⟩ := hparts.unique hparts'
    exact hexpressed
  · exact parse_eq_ok_iff.mpr ⟨_, _, _, hspec.parts _, hspec.operator_some, hspec.expressed hvalue⟩
  · refine ⟨_, ofJson?_toJson (JsonCodec.canonical_of_parse hvalue), ?_⟩
    -- Only the path counts for the condition, and that is the empty one without a field.
    change [(⟨field.getD "", _, _⟩ : Condition σ)] = _
    rw [hfield]
    rfl

/-- A field, a marked operator and a list with a bar inside it. -/
def tagged : ConditionSpec := ⟨some "tags", "! has", .array [.string "a|b", .null]⟩

theorem parse_by_parts_tagged :
    let J := Json.codec
    tagged.Writable ∧ J.parse (J.compact tagged.value) = .ok tagged.value ∧
    parse J (expression "tags" "! has" (J.compact tagged.value)) = .ok tagged ∧
    Parts " title |contains|a|b" " title " "contains" "a|b" ∧
    (∃ spec, parse J " title |contains|a|b" = .ok spec ∧ spec.Expressed J " title " "contains" "a|b") ∧
    ∃ file, ConditionsFile.ofJson? (.object [("conditions", .array [tagged.toJson])]) = some file ∧
      (file.conditions : List (Condition (PatternCache .words))) = [tagged.toCondition] := by
  intro J
  obtain ⟨-, haccepted, hstated, -, hwritten⟩ := parse_by_parts J
  have hwritable : tagged.Writable :=
    ⟨fun f hf => by obtain rfl : "tags" = f := Option.some.inj hf; decide +kernel, by decide, by decide⟩
  have hvalue : J.parse (J.compact tagged.value) = .ok tagged.value := by
    refine Json.codec_parse_compact (.array ?_) rfl
    exact List.forall_mem_cons.mpr ⟨.string _ _, List.forall_mem_singleton.mpr (.null _)⟩
  obtain ⟨hparse, hconditions⟩ := hwritten tagged hwritable hvalue
  have hparts : Parts " title |contains|a|b" " title " "contains" "a|b" := ⟨rfl, by decide, by decide⟩
  obtain ⟨spec, hspec⟩ := (haccepted _).mpr ⟨_, _, _, hparts, by decide⟩
  exact ⟨hwritable, hvalue, hparse, hparts, ⟨spec, hspec, hstated _ _ _ _ _ hparts hspec⟩,
    hconditions _ rfl _⟩

end Sift.ConditionSpec
