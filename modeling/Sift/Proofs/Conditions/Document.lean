import Mathlib.Data.List.Forall2
import Sift.Pattern.Words
import Sift.Proofs.Json.ReadBack

/-! # What a JSON document states

A document states a polarity and a row of conditions if it has the declared shape, and no document of another
shape is accepted. The conditions stand in the order of the items that state them.
-/
namespace Sift

theorem mapM_eq_some_iff {α β : Type} {f : α → Option β} {xs : List α} {ys : List β} :
    xs.mapM f = some ys ↔ List.Forall₂ (fun x y => f x = some y) xs ys := by
  induction xs generalizing ys with
  | nil => simp [eq_comm]
  | cons x xs ih =>
    simp only [List.mapM_cons, Option.bind_eq_bind, Option.bind_eq_some_iff, Option.pure_def, Option.some.injEq]
    rw [List.forall₂_cons_left_iff]
    constructor
    · rintro ⟨y, hy, zs, hzs, rfl⟩
      exact ⟨y, zs, hy, ih.mp hzs, rfl⟩
    · rintro ⟨y, zs, hy, hzs, rfl⟩
      exact ⟨y, hy, zs, ih.mpr hzs, rfl⟩

/-! ## Shapes -/

/-- What a value states where it may be missing: then it is the default that is stated. -/
def StatesOr {α : Type} (states : Json → α → Prop) (default : α) : Option Json → α → Prop
  | some v, a => states v a
  | none, a => a = default

/-- Null states no polarity. A polarity is stated by its name, or by an object with its name as the only key and
null under it. -/
inductive Polarity.Stated : Json → Option Polarity → Prop
  | null : Stated .null none
  | name (p : Polarity) : Stated (.string p.name) (some p)
  | key (p : Polarity) : Stated (.object [(p.name, .null)]) (some p)

/-- A condition is stated by three items: null or a text for the field, a text for the operator, and any value. -/
inductive ConditionSpec.Stated : Json → ConditionSpec → Prop
  | record (operator : String) (value : Json) :
    Stated (.array [.null, .string operator, value]) ⟨none, operator, value.canonical⟩
  | field (field operator : String) (value : Json) :
    Stated (.array [.string field, .string operator, value]) ⟨some field, operator, value.canonical⟩

def ConditionSpec.RowStated (v : Json) (specs : List ConditionSpec) : Prop :=
  ∃ items, v = .array items ∧ List.Forall₂ Stated items specs

namespace ConditionsFile

/-- An object with the keys `polarity` and `conditions` and no other, none of them twice, or an array of at
most two items, the polarity and then the conditions. -/
inductive Stated : Json → ConditionsFile → Prop
  | object {ms : List (String × Json)} {polarity : Option Polarity} {specs : List ConditionSpec}
    (known : ∀ m ∈ ms, m.1 = "polarity" ∨ m.1 = "conditions") (distinct : (ms.map Prod.fst).Nodup)
    (hpolarity : StatesOr Polarity.Stated none (ms.lookup "polarity") polarity)
    (hspecs : StatesOr ConditionSpec.RowStated [] (ms.lookup "conditions") specs) :
    Stated (.object ms) ⟨polarity, specs⟩
  | array {items : List Json} {polarity : Option Polarity} {specs : List ConditionSpec}
    (short : items.length ≤ 2) (hpolarity : StatesOr Polarity.Stated none items[0]? polarity)
    (hspecs : StatesOr ConditionSpec.RowStated [] items[1]? specs) : Stated (.array items) ⟨polarity, specs⟩

/-! ## Decoding -/

theorem ofName?_eq_some_iff {s : String} {p : Polarity} : Polarity.ofName? s = some p ↔ s = p.name := by
  constructor
  · intro h
    unfold Polarity.ofName? at h
    split at h
    · next hs =>
      cases h
      exact hs
    · split at h
      · next hs =>
        cases h
        exact hs
      · cases h
  · rintro rfl
    exact Polarity.ofName?_name p

theorem polarity?_eq_some_iff {v : Json} {polarity : Option Polarity} :
    polarity? v = some polarity ↔ Polarity.Stated v polarity := by
  constructor
  · intro h
    unfold polarity? at h
    split at h
    · cases h
      exact .null
    · obtain ⟨p, hp, rfl⟩ := Option.map_eq_some_iff.mp h
      unfold Polarity.ofJson? at hp
      split at hp
      · obtain rfl := ofName?_eq_some_iff.mp hp
        exact .name p
      · obtain rfl := ofName?_eq_some_iff.mp hp
        exact .key p
      · cases hp
  · rintro (_ | p | p)
    · rfl
    · simp [polarity?, Polarity.ofJson?]
    · simp [polarity?, Polarity.ofJson?]

theorem spec?_eq_some_iff {v : Json} {spec : ConditionSpec} :
    spec? v = some spec ↔ ConditionSpec.Stated v spec := by
  constructor
  · intro h
    unfold spec? at h
    split at h
    · cases h
      exact .record _ _
    · cases h
      exact .field _ _ _
    · cases h
  · rintro (_ | _) <;> rfl

theorem specs?_eq_some_iff {v : Json} {specs : List ConditionSpec} :
    specs? v = some specs ↔ ConditionSpec.RowStated v specs := by
  unfold ConditionSpec.RowStated
  cases v with
  | array items => simp [specs?, mapM_eq_some_iff, spec?_eq_some_iff]
  | _ => simp [specs?]

/-- A reader of values that may be missing, from one of values that are there. -/
theorem getD_map_eq_some_iff {α : Type} {read : Json → Option α} {states : Json → α → Prop}
    (h : ∀ {v a}, read v = some a ↔ states v a) {default a : α} {v : Option Json} :
    (v.map read).getD (some default) = some a ↔ StatesOr states default v a := by
  cases v with
  | none => simp [StatesOr, eq_comm]
  | some v => exact h

theorem ofParts?_eq_some_iff {polarity specs : Option Json} {file : ConditionsFile} :
    ofParts? polarity specs = some file ↔ StatesOr Polarity.Stated none polarity file.polarity ∧
      StatesOr ConditionSpec.RowStated [] specs file.specs := by
  rw [← getD_map_eq_some_iff polarity?_eq_some_iff, ← getD_map_eq_some_iff specs?_eq_some_iff]
  simp only [ofParts?, Option.bind_eq_bind, Option.bind_eq_some_iff, Option.some.injEq]
  constructor
  · rintro ⟨p, hp, s, hs, rfl⟩
    exact ⟨hp, hs⟩
  · rintro ⟨hp, hs⟩
    exact ⟨_, hp, _, hs, rfl⟩

theorem knownKeys_iff {keys : List String} :
    knownKeys keys = true ↔ (∀ key ∈ keys, key = "polarity" ∨ key = "conditions") ∧ keys.Nodup := by
  simp [knownKeys]

/-- A document is decoded exactly if it has the declared shape, and then to what it states. -/
theorem ofJson?_eq_some_iff {document : Json} {file : ConditionsFile} :
    ofJson? document = some file ↔ Stated document file := by
  constructor
  · intro h
    unfold ofJson? at h
    split at h
    · next ms =>
      obtain ⟨hkeys, hparts⟩ := Option.ite_none_right_eq_some.mp h
      obtain ⟨hknown, hdistinct⟩ := knownKeys_iff.mp hkeys
      obtain ⟨hpolarity, hspecs⟩ := ofParts?_eq_some_iff.mp hparts
      exact .object (fun m hm => hknown m.1 (List.mem_map_of_mem hm)) hdistinct hpolarity hspecs
    · obtain ⟨hpolarity, hspecs⟩ := ofParts?_eq_some_iff.mp h
      exact .array (Nat.zero_le 2) hpolarity hspecs
    · obtain ⟨hpolarity, hspecs⟩ := ofParts?_eq_some_iff.mp h
      exact .array Nat.one_le_ofNat hpolarity hspecs
    · obtain ⟨hpolarity, hspecs⟩ := ofParts?_eq_some_iff.mp h
      exact .array (Nat.le_refl 2) hpolarity hspecs
    · cases h
  · rintro (⟨hknown, hdistinct, hpolarity, hspecs⟩ | ⟨hshort, hpolarity, hspecs⟩)
    · next ms polarity specs =>
      have hkeys : knownKeys (ms.map Prod.fst) = true :=
        knownKeys_iff.mpr ⟨List.forall_mem_map.mpr hknown, hdistinct⟩
      rw [ofJson?, if_pos hkeys]
      exact ofParts?_eq_some_iff.mpr ⟨hpolarity, hspecs⟩
    · next items polarity specs =>
      match items, hshort with
      | [], _ => exact ofParts?_eq_some_iff.mpr ⟨hpolarity, hspecs⟩
      | [_], _ => exact ofParts?_eq_some_iff.mpr ⟨hpolarity, hspecs⟩
      | [_, _], _ => exact ofParts?_eq_some_iff.mpr ⟨hpolarity, hspecs⟩

variable {J : JsonCodec}

theorem parseJson_eq_ok_iff {text : String} {file : ConditionsFile} :
    parseJson J text = .ok file ↔ ∃ document, J.read text = .ok document ∧ Stated document file := by
  unfold parseJson
  cases J.read text with
  | error reason => simp [Except.toOption]
  | ok document =>
    simp only [Except.toOption, Option.bind_some, Except.ok.injEq, exists_eq_left', ← ofJson?_eq_some_iff]
    cases ofJson? document <;> simp

theorem parseJson_eq_error_iff {text : String} {e : ConditionsError} :
    parseJson J text = .error e ↔ e = .invalidJson (J.refusal text) ∧
      ¬ ∃ document file, J.read text = .ok document ∧ Stated document file := by
  rw [exists_comm]
  simp only [← parseJson_eq_ok_iff]
  unfold parseJson
  cases (J.read text).toOption.bind ofJson? <;> simp [eq_comm]

end ConditionsFile

/-! ## Conditions -/

section
variable {σ : Type}

/-- The condition that an item states: it is about the record itself where the field is null, its operator is as
it is written, and the elements of an array are candidates. -/
inductive Condition.Stated : Json → Condition σ → Prop
  | intro {field value : Json} {path operator : String} {candidates : ConditionValue}
    (hfield : field = .null ∧ path = "" ∨ field = .string path)
    (hvalue : (∃ xs, value = .array xs ∧ candidates = .any (xs.map Json.canonical)) ∨
      value.kind ≠ .array ∧ candidates = .one value.canonical) :
    Stated (.array [field, .string operator, value]) ⟨path, .named operator, candidates⟩

theorem ofJson_canonical (value : Json) :
    (∃ xs, value = .array xs ∧ ConditionValue.ofJson value.canonical = .any (xs.map Json.canonical)) ∨
      value.kind ≠ .array ∧ ConditionValue.ofJson value.canonical = .one value.canonical := by
  cases value with
  | array xs => exact .inl ⟨xs, rfl, by rw [Json.canonical, Json.canonicalItems_eq_map]; rfl⟩
  | null | bool _ | number _ | string _ | object _ => exact .inr ⟨by simp [Json.kind], rfl⟩

theorem ConditionSpec.Stated.toCondition {v : Json} {spec : ConditionSpec} (h : Stated v spec) :
    Condition.Stated v (spec.toCondition : Condition σ) := by
  cases h with
  | record operator value => exact .intro (.inl ⟨rfl, rfl⟩) (ofJson_canonical value)
  | field field operator value => exact .intro (.inr rfl) (ofJson_canonical value)

namespace ConditionsFile

/-- The items of a document that state its conditions. -/
def statedItems : Json → List Json
  | .object ms => ((ms.lookup "conditions").getD (Json.array [])).items
  | .array items => (items[1]?.getD (Json.array [])).items
  | _ => []

theorem forall₂_of_statesOr {v : Option Json} {specs : List ConditionSpec}
    (h : StatesOr ConditionSpec.RowStated [] v specs) :
    List.Forall₂ ConditionSpec.Stated (v.getD (Json.array [])).items specs := by
  cases v with
  | none =>
    obtain rfl : specs = [] := h
    exact .nil
  | some v =>
    obtain ⟨items, rfl, hitems⟩ := h
    exact hitems

/-- There is one condition for each item, in their order. -/
theorem Stated.conditions {document : Json} {file : ConditionsFile} (h : Stated document file) :
    List.Forall₂ Condition.Stated (statedItems document) (file.conditions : List (Condition σ)) := by
  have hspecs : List.Forall₂ ConditionSpec.Stated (statedItems document) file.specs := by
    cases h with
    | object _ _ _ hspecs | array _ _ hspecs => exact forall₂_of_statesOr hspecs
  exact List.forall₂_map_right_iff.mpr (hspecs.imp fun _ _ hspec => hspec.toCondition)

end ConditionsFile
end

/-! ## Encoding -/

/-- The three items of a condition. -/
def ConditionSpec.toJson (spec : ConditionSpec) : Json :=
  .array [spec.field.elim .null .string, .string spec.operator, spec.value]

theorem ConditionSpec.stated_toJson {spec : ConditionSpec} (h : spec.value.canonical = spec.value) :
    Stated spec.toJson spec := by
  obtain ⟨field, operator, value⟩ := spec
  have hvalue : value.canonical = value := h
  cases field with
  | none =>
    have hstated := Stated.record operator value
    rwa [hvalue] at hstated
  | some field =>
    have hstated := Stated.field field operator value
    rwa [hvalue] at hstated

namespace ConditionsFile

def specsJson (file : ConditionsFile) : Json := .array (file.specs.map ConditionSpec.toJson)

def members (file : ConditionsFile) : List (String × Json) :=
  [("polarity", file.polarity.elim .null fun p => .string p.name), ("conditions", file.specsJson)]

/-- The two members in either order; a polarity that is not there may be left out. -/
def IsEncoding (file : ConditionsFile) (ms : List (String × Json)) : Prop :=
  ms.Perm file.members ∨ file.polarity = none ∧ ms = [("conditions", file.specsJson)]

/-- The values of the conditions are canonical. -/
def IsCanonical (file : ConditionsFile) : Prop := ∀ spec ∈ file.specs, spec.value.canonical = spec.value

variable {file : ConditionsFile} {ms : List (String × Json)}

theorem rowStated_specsJson (h : file.IsCanonical) : ConditionSpec.RowStated file.specsJson file.specs :=
  ⟨_, rfl, List.forall₂_map_left_iff.mpr
    (List.forall₂_same.mpr fun spec hspec => ConditionSpec.stated_toJson (h spec hspec))⟩

theorem polarityStated_members (polarity : Option Polarity) :
    Polarity.Stated (polarity.elim .null fun p => .string p.name) polarity := by
  cases polarity with
  | none => exact .null
  | some p => exact .name p

theorem IsEncoding.stated (hms : file.IsEncoding ms) (h : file.IsCanonical) : Stated (.object ms) file := by
  rcases hms with hperm | ⟨hnone, rfl⟩
  · have hdistinct : (ms.map Prod.fst).Nodup :=
      (hperm.map Prod.fst).nodup_iff.mpr (show ["polarity", "conditions"].Nodup by decide)
    have hlookup : ∀ {m}, m ∈ file.members → ms.lookup m.1 = some m.2 := fun hm =>
      lookup_eq_some_of_mem hdistinct (hperm.mem_iff.mpr hm)
    have hknown : ∀ m ∈ ms, m.1 = "polarity" ∨ m.1 = "conditions" := by
      intro m hm
      rcases List.mem_pair.mp (hperm.mem_iff.mp hm) with rfl | rfl
      · exact .inl rfl
      · exact .inr rfl
    refine .object hknown hdistinct ?_ ?_
    · rw [hlookup (m := ("polarity", _)) List.mem_cons_self]
      exact polarityStated_members file.polarity
    · rw [hlookup (m := ("conditions", _)) (List.mem_cons_of_mem _ List.mem_cons_self)]
      exact rowStated_specsJson h
  · refine .object (List.forall_mem_singleton.mpr (.inr rfl)) (List.pairwise_singleton _ _) hnone ?_
    exact rowStated_specsJson h

/-- A text is accepted exactly if it is a document of the declared shape, and every other text is refused with the
error for JSON. What is accepted has the polarity and the conditions that the document states, one condition for
each item in their order. The encoding of a file is such a document, with its members in either order, and each
text of it is decoded to the file. -/
theorem parseJson_by_shape (J : JsonCodec) :
    (∀ text file, parseJson J text = .ok file ↔
      ∃ document, J.read text = .ok document ∧ Stated document file) ∧
    (∀ text e, parseJson J text = .error e ↔ e = .invalidJson (J.refusal text) ∧
      ¬ ∃ document file, J.read text = .ok document ∧ Stated document file) ∧
    (∀ document file, Stated document file → ∀ σ : Type,
      List.Forall₂ Condition.Stated (statedItems document) (file.conditions : List (Condition σ))) ∧
    ∀ file ms, IsCanonical file → IsEncoding file ms → Stated (.object ms) file ∧
      ∀ text, J.read text = .ok (.object ms) → parseJson J text = .ok file :=
  ⟨fun _ _ => parseJson_eq_ok_iff, fun _ _ => parseJson_eq_error_iff,
    fun _ _ hstated _ => hstated.conditions, fun _ _ h hms =>
    ⟨hms.stated h, fun _ hread => parseJson_eq_ok_iff.mpr ⟨_, hread, hms.stated h⟩⟩⟩

/-- A blacklist of two conditions, with candidates and without a field. -/
def listed : ConditionsFile :=
  ⟨some .blacklist, [⟨some "tags", "!has", .array [.string "a", .object [("k", .null)]]⟩, ⟨none, "==", .null⟩]⟩

theorem fits_listed :
    Json.Fits Json.maxDepth (.object [("conditions", listed.specsJson), ("polarity", .string "blacklist")]) := by
  have hitems : Json.Fits (Json.maxDepth - 1) listed.specsJson := by
    refine .array (List.forall_mem_cons.mpr ⟨.array ?_, List.forall_mem_singleton.mpr (.array ?_)⟩)
    · refine List.forall_mem_cons.mpr ⟨.string _ _, List.forall_mem_cons.mpr ⟨.string _ _, ?_⟩⟩
      refine List.forall_mem_singleton.mpr (.array (List.forall_mem_cons.mpr ⟨.string _ _, ?_⟩))
      exact List.forall_mem_singleton.mpr (.object (List.forall_mem_singleton.mpr (.null _)))
    · refine List.forall_mem_cons.mpr ⟨.null _, List.forall_mem_cons.mpr ⟨.string _ _, ?_⟩⟩
      exact List.forall_mem_singleton.mpr (.null _)
  exact .object (List.forall_mem_cons.mpr ⟨hitems, List.forall_mem_singleton.mpr (.string _ _)⟩)

/-- The conditions of the encoding stand before its polarity. -/
theorem parseJson_by_shape_listed :
    let J := Json.codec
    let members : List (String × Json) := [("conditions", listed.specsJson), ("polarity", .string "blacklist")]
    let text := J.compact (.object members)
    listed.IsCanonical ∧ listed.IsEncoding members ∧ J.read text = .ok (.object members) ∧
    parseJson J text = .ok listed ∧ Stated (.object members) listed ∧
    List.Forall₂ Condition.Stated (statedItems (.object members))
      (listed.conditions : List (Condition (PatternCache .words))) := by
  intro J members text
  have hencoding : listed.IsEncoding members := .inl (List.Perm.swap _ _ [])
  have hcanonical : listed.IsCanonical :=
    List.forall_mem_cons.mpr ⟨rfl, List.forall_mem_singleton.mpr rfl⟩
  have hread : J.read text = .ok (.object members) := Json.codec_read_compact fits_listed
  obtain ⟨-, -, hconditions, hencode⟩ := parseJson_by_shape J
  obtain ⟨hstated, hdecode⟩ := hencode listed members hcanonical hencoding
  exact ⟨hcanonical, hencoding, hread, hdecode text hread, hstated, hconditions _ _ hstated _⟩

end ConditionsFile
end Sift
