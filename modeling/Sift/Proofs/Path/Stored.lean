import Sift.Proofs.Decimal.Digits
import Sift.Proofs.Path.Composition

/-! # Stored places

A place in a record is a row of steps from the record to a value that is stored in it, each to the member
of an object with a key or to the element of an array at an index. A path leads to a stored value exactly
if its segments are the texts of the steps to it, so that a place is found again by the texts of its steps,
unless a point in a key breaks it.
-/
namespace Sift

namespace Json

/-- A step into an object or an array. -/
inductive Step
  | key (name : String)
  | index (i : Nat)
deriving DecidableEq

/-- A key as it is, and an index as its decimal numeral. -/
def Step.text : Step → String
  | key name => name
  | index i => i.repr

def Step.segment (s : Step) : List Char := s.text.toList

@[simp] theorem Step.segment_key (name : String) : (key name).segment = name.toList := rfl

@[simp] theorem Step.segment_index (i : Nat) : (index i).segment = Nat.toDigits 10 i := Nat.toList_repr

/-- The value that a step leads to. Of members with one key it is the first; a canonical object has no other. -/
def child? : Json → Step → Option Json
  | .object ms, .key name => ms.lookup name
  | .array xs, .index i => xs[i]?
  | _, _ => none

/-- The value at a place. -/
def at? : Json → List Step → Option Json
  | v, [] => some v
  | v, s :: rest => (v.child? s).bind fun w => w.at? rest

end Json

namespace Path
open Json (Step)

theorem index?_of_head?_ne_zero {segment : List Char} (h : segment.head? ≠ some '0') :
    index? segment = natOfDigits? 10 segment := by
  unfold index?
  split
  · exact absurd rfl h
  · exact absurd rfl h
  · rfl

/-- An index is denoted by its decimal numeral and by nothing else. -/
theorem index?_eq_some_iff {segment : List Char} {i : Nat} :
    index? segment = some i ↔ segment = Nat.toDigits 10 i := by
  constructor
  · intro h
    by_cases hlead : segment.head? = some '0'
    · obtain ⟨rest, rfl⟩ : ∃ rest, segment = '0' :: rest := List.head?_eq_some_iff.mp hlead
      cases rest with
      | nil =>
        obtain rfl := Option.some.inj h
        rfl
      | cons c cs => simp [index?] at h
    · rw [index?_of_head?_ne_zero hlead] at h
      exact (eq_toDigits_of_natOfDigits? h hlead).1
  · rintro rfl
    rcases Nat.eq_zero_or_pos i with rfl | hi
    · rfl
    · rw [index?_of_head?_ne_zero (head?_toDigits_ne_zero hi), natOfDigits?_toDigits]

theorem toDigits_ne_lengthSegment (i : Nat) : Nat.toDigits 10 i ≠ lengthSegment := by
  intro h
  have hnone : index? lengthSegment = none := rfl
  rw [index?_eq_some_iff.mpr h.symm] at hnone
  cases hnone

theorem point_notMem_toDigits (i : Nat) : '.' ∉ Nat.toDigits 10 i := by
  intro h
  exact absurd (Nat.isDigit_of_mem_toDigits (by decide) (by decide) h) (by decide)

theorem element_eq_some_iff {α : Type} {xs : List α} {segment : List Char} {x : α} :
    (index? segment).bind (xs[·]?) = some x ↔ ∃ i, segment = Nat.toDigits 10 i ∧ xs[i]? = some x := by
  simp only [Option.bind_eq_some_iff, index?_eq_some_iff]

theorem member_object_eq_stored_iff {ms : List (String × Json)} {segment : List Char} {v : Json} :
    member (.object ms) segment = .stored v ↔ ms.lookup (String.ofList segment) = some v := by
  simp only [member]
  cases ms.lookup (String.ofList segment) <;> simp

theorem member_array_eq_stored_iff {xs : List Json} {segment : List Char} {v : Json} :
    member (.array xs) segment = .stored v ↔ ∃ i, segment = Nat.toDigits 10 i ∧ xs[i]? = some v := by
  rw [← element_eq_some_iff]
  by_cases hlength : segment = lengthSegment
  · subst hlength
    have hnone : index? lengthSegment = none := rfl
    simp [member, hnone]
  · simp only [member, if_neg hlength]
    cases (index? segment).bind (xs[·]?) <;> simp

theorem member_string_ne_stored (s : String) (segment : List Char) (v : Json) :
    member (.string s) segment ≠ .stored v := by
  by_cases hlength : segment = lengthSegment
  · simp [member, hlength]
  · simp only [member, if_neg hlength]
    cases (index? segment).bind (s.toList[·]?) <;> simp

theorem member_eq_stored_iff {u v : Json} {segment : List Char} :
    member u segment = .stored v ↔ ∃ s : Step, segment = s.segment ∧ u.child? s = some v := by
  cases u with
  | object ms =>
    rw [member_object_eq_stored_iff]
    constructor
    · intro h
      exact ⟨.key (String.ofList segment), String.toList_ofList.symm, h⟩
    · rintro ⟨⟨name⟩ | ⟨i⟩, rfl, hs⟩
      · rw [Step.segment_key, String.ofList_toList]
        exact hs
      · cases hs
  | array xs =>
    rw [member_array_eq_stored_iff]
    constructor
    · rintro ⟨i, rfl, hi⟩
      exact ⟨.index i, (Step.segment_index i).symm, hi⟩
    · rintro ⟨⟨name⟩ | ⟨i⟩, rfl, hs⟩
      · cases hs
      · exact ⟨i, Step.segment_index i, hs⟩
  | string s => simp [member_string_ne_stored, Json.child?]
  | null | bool _ | number _ => simp [member, Json.child?]

theorem follow_eq_stored_iff {u v : Json} {segs : List (List Char)} :
    follow u segs = .stored v ↔
      ∃ steps : List Step, segs = steps.map Step.segment ∧ u.at? steps = some v := by
  induction segs generalizing u with
  | nil =>
    constructor
    · intro h
      obtain rfl := FieldValue.stored.inj h
      exact ⟨[], rfl, rfl⟩
    · rintro ⟨steps, hsteps, hat⟩
      obtain rfl := List.map_eq_nil_iff.mp hsteps.symm
      obtain rfl := Option.some.inj hat
      rfl
  | cons segment rest ih =>
    rw [follow_cons, FieldValue.andThen_eq_stored_iff]
    constructor
    · rintro ⟨w, hw, hrest⟩
      obtain ⟨s, rfl, hchild⟩ := member_eq_stored_iff.mp hw
      obtain ⟨steps, rfl, hat⟩ := ih.mp hrest
      refine ⟨s :: steps, rfl, ?_⟩
      rw [Json.at?, hchild]
      exact hat
    · rintro ⟨steps, hsteps, hat⟩
      obtain ⟨s, steps, rfl, rfl, rfl⟩ := List.map_eq_cons_iff.mp hsteps.symm
      obtain ⟨w, hchild, hrest⟩ := Option.bind_eq_some_iff.mp hat
      exact ⟨w, member_eq_stored_iff.mpr ⟨s, rfl, hchild⟩, ih.mpr ⟨steps, rfl, hrest⟩⟩

/-- The texts of the steps to a place, with points between them. -/
def ofSteps (steps : List Step) : String := ".".intercalate (steps.map Step.text)

theorem toList_ofSteps (steps : List Step) :
    (ofSteps steps).toList = Text.join '.' (steps.map Step.segment) := by
  rw [ofSteps, String.toList_intercalate, Text.join_eq_intercalate, List.map_map]
  rfl

/-- No step is lost in the text of a place, unless a point in a key breaks it. A single empty key leaves no
text, which is the path of the record itself. -/
theorem segments_ofSteps {steps : List Step} (hkeys : ∀ name, .key name ∈ steps → '.' ∉ name.toList)
    (hne : steps ≠ [.key ""]) : segments (ofSteps steps) = steps.map Step.segment := by
  cases steps with
  | nil => rfl
  | cons s rest =>
    have hpoint : ∀ segment ∈ (s :: rest).map Step.segment, '.' ∉ segment := by
      intro segment hsegment
      obtain ⟨t, ht, rfl⟩ := List.mem_map.mp hsegment
      cases t with
      | key name => exact hkeys name ht
      | index i =>
        rw [Step.segment_index]
        exact point_notMem_toDigits i
    have hpieces : Text.pieces '.' (ofSteps (s :: rest)).toList = (s :: rest).map Step.segment := by
      rw [toList_ofSteps]
      exact Text.pieces_join (by simp) hpoint
    by_cases hempty : ofSteps (s :: rest) = ""
    · -- The empty text has one piece, so that there is one step, with an empty text.
      rw [hempty] at hpieces
      obtain ⟨hs, hrest⟩ := List.cons.inj hpieces
      obtain rfl := List.map_eq_nil_iff.mp hrest.symm
      cases s with
      | key name =>
        obtain rfl : name = "" := String.toList_eq_nil_iff.mp hs.symm
        exact absurd rfl hne
      | index i =>
        rw [Step.segment_index] at hs
        exact absurd hs.symm Nat.toDigits_ne_nil
    · rw [segments_of_ne_empty hempty, hpieces]

/-- The segment leads to the element of an array at an index: whatever is put there is found. -/
def Reaches (xs : List Json) (segment : List Char) (i : Nat) : Prop :=
  ∀ v, member (.array (xs.set i v)) segment = .stored v

theorem reaches_iff {xs : List Json} {segment : List Char} {i : Nat} :
    Reaches xs segment i ↔ i < xs.length ∧ segment = Nat.toDigits 10 i := by
  constructor
  · intro h
    obtain ⟨j, rfl, hnull⟩ := member_array_eq_stored_iff.mp (h .null)
    obtain ⟨k, hk, htrue⟩ := member_array_eq_stored_iff.mp (h (.bool true))
    obtain rfl : j = k := by
      have hindex := index?_eq_some_iff.mpr hk
      rw [index?_eq_some_iff.mpr rfl] at hindex
      exact Option.some.inj hindex
    -- At any other index the two arrays agree, and their members would too.
    obtain rfl : i = j := by
      by_contra hij
      rw [List.getElem?_set_ne hij] at hnull htrue
      cases hnull.symm.trans htrue
    refine ⟨?_, rfl⟩
    simpa using (List.getElem?_eq_some_iff.mp hnull).1
  · rintro ⟨hi, rfl⟩ v
    exact member_array_eq_stored_iff.mpr ⟨i, rfl, List.getElem?_set_self hi⟩

end Path

namespace Json

/-- A path leads to a stored value exactly if its segments, which are its pieces between the points, are
the texts of the steps to a place with that value: to the members of objects by their keys, whatever these
are, and to the elements of arrays by the numerals of their indices. So a place is found again by the texts
of its steps, and different segments never lead to the same element of an array. -/
theorem resolve_stored_places (record : Json) :
    (∀ p, p ≠ "" →
      (∀ segs, Path.segments p = segs ↔
        segs ≠ [] ∧ (∀ segment ∈ segs, '.' ∉ segment) ∧ Text.join '.' segs = p.toList) ∧
      ∀ v, record.resolve p = .stored v ↔
        ∃ steps : List Step, Path.segments p = steps.map Step.segment ∧ record.at? steps = some v) ∧
    (∀ steps v, record.at? steps = some v → (∀ name, .key name ∈ steps → '.' ∉ name.toList) →
      steps ≠ [.key ""] → record.resolve (Path.ofSteps steps) = .stored v) ∧
    (∀ xs segment segment' i, Path.Reaches xs segment i → Path.Reaches xs segment' i →
      segment = segment') := by
  refine ⟨?_, ?_, ?_⟩
  · intro p hp
    refine ⟨fun segs => ?_, fun v => Path.follow_eq_stored_iff⟩
    rw [Path.segments_of_ne_empty hp, Text.pieces_eq_iff]
  · intro steps v hat hkeys hne
    exact Path.follow_eq_stored_iff.mpr ⟨steps, Path.segments_ofSteps hkeys hne, hat⟩
  · intro xs segment segment' i h h'
    exact (Path.reaches_iff.mp h).2.trans (Path.reaches_iff.mp h').2.symm

/-- A record with an empty key, and with keys that read like a length and an index. -/
def boxed : Json := .object [("", .array [.null, .object [("length", .bool true), ("1", .string "a.b")]])]

/-- In an object `length` and `1` are keys like others; in an array `1` is an index. -/
theorem resolve_stored_places_boxed :
    ".1.length" ≠ "" ∧ boxed.resolve ".1.length" = .stored (.bool true) ∧
    boxed.at? [.key "", .index 1, .key "1"] = some (.string "a.b") ∧
    Path.ofSteps [.key "", .index 1, .key "1"] = ".1.1" ∧
    boxed.resolve ".1.1" = .stored (.string "a.b") ∧
    Path.Reaches [.null, .null] ['1'] 1 ∧ Path.Reaches [.null, .null] (Nat.toDigits 10 1) 1 ∧
    ['1'] = Nat.toDigits 10 1 := by
  obtain ⟨hpath, hplace, hsame⟩ := boxed.resolve_stored_places
  have hne : ".1.length" ≠ "" := by decide
  have hat : boxed.at? [.key "", .index 1, .key "1"] = some (.string "a.b") := rfl
  have htext : Path.ofSteps [.key "", .index 1, .key "1"] = ".1.1" := rfl
  have hkeys : ∀ name, Step.key name ∈ [Step.key "", .index 1, .key "1"] → '.' ∉ name.toList := by
    intro name hname
    simp only [List.mem_cons, Step.key.injEq, reduceCtorEq, List.not_mem_nil, or_false, false_or] at hname
    rcases hname with rfl | rfl <;> decide
  have hreaches : Path.Reaches [.null, .null] (Nat.toDigits 10 1) 1 :=
    Path.reaches_iff.mpr ⟨by decide, rfl⟩
  refine ⟨hne, ?_, hat, htext, ?_, hreaches, hreaches, hsame _ _ _ _ hreaches hreaches⟩
  · exact ((hpath _ hne).2 _).mpr ⟨[.key "", .index 1, .key "length"], rfl, rfl⟩
  · rw [← htext]
    exact hplace _ _ hat hkeys (by decide)

end Json
end Sift
