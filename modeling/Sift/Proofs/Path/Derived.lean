import Sift.Proofs.Path.Stored

/-! # Derived values

What a path computes: the length of an array or of a string, a character of a string, and what is read from
that character again, which is the character itself as often as its only index is taken, and its length. A
path leads to a derived value exactly if its first segments lead to a place and the others compute from the
value there. So the characters of a string stand at its indices, and nothing stands behind them.
-/
namespace Sift

namespace Path
open Json (Step)

/-- The value that segments compute from a stored one. -/
inductive Computes : Json → List (List Char) → Json → Prop
  | arrayLength (xs : List Json) :
      Computes (.array xs) [lengthSegment] (.number (.ofNat xs.length))
  | stringLength (s : String) :
      Computes (.string s) [lengthSegment] (.number (.ofNat s.toList.length))
  | character {s : String} {i : Nat} {c : Char} (zeros : Nat) (h : s.toList[i]? = some c) :
      Computes (.string s) (Nat.toDigits 10 i :: List.replicate zeros ['0'])
        (.string (String.singleton c))
  | characterLength {s : String} {i : Nat} {c : Char} (zeros : Nat) (h : s.toList[i]? = some c) :
      Computes (.string s) (Nat.toDigits 10 i :: (List.replicate zeros ['0'] ++ [lengthSegment]))
        (.number (.ofNat 1))

theorem Computes.ne_nil {v d : Json} {rest : List (List Char)} (h : Computes v rest d) : rest ≠ [] := by
  cases h <;> simp

theorem member_object_ne_derived (ms : List (String × Json)) (segment : List Char) (d : Json) :
    member (.object ms) segment ≠ .derived d := by
  simp only [member]
  cases ms.lookup (String.ofList segment) <;> simp

theorem member_array_eq_derived_iff {xs : List Json} {segment : List Char} {d : Json} :
    member (.array xs) segment = .derived d ↔
      segment = lengthSegment ∧ d = .number (.ofNat xs.length) := by
  by_cases hlength : segment = lengthSegment
  · simp [member, hlength, eq_comm]
  · simp only [member, hlength, ↓reduceIte, false_and, iff_false]
    cases (index? segment).bind (xs[·]?) <;> simp

theorem member_string_eq_derived_iff {s : String} {segment : List Char} {d : Json} :
    member (.string s) segment = .derived d ↔
      (segment = lengthSegment ∧ d = .number (.ofNat s.toList.length)) ∨
      ∃ i c, segment = Nat.toDigits 10 i ∧ s.toList[i]? = some c ∧ d = .string (String.singleton c) := by
  by_cases hlength : segment = lengthSegment
  · subst hlength
    simp [member, (toDigits_ne_lengthSegment _).symm, eq_comm]
  · have helement : member (.string s) segment = .derived d ↔
        ∃ c, (index? segment).bind (s.toList[·]?) = some c ∧ d = .string (String.singleton c) := by
      simp only [member, if_neg hlength]
      cases (index? segment).bind (s.toList[·]?) <;> simp [eq_comm]
    rw [helement]
    simp only [element_eq_some_iff, hlength, false_and, false_or]
    constructor
    · rintro ⟨c, ⟨i, hi, hc⟩, hd⟩
      exact ⟨i, c, hi, hc, hd⟩
    · rintro ⟨i, c, hi, hc, hd⟩
      exact ⟨c, ⟨i, hi, hc⟩, hd⟩

theorem value?_follow_number {n : Number} {segs : List (List Char)} {d : Json} :
    (follow (.number n) segs).value? = some d ↔ segs = [] ∧ d = .number n := by
  cases segs with
  | nil => simp [eq_comm]
  | cons segment rest => simp [value?_follow_cons, member]

theorem value?_member_character {c : Char} {segment : List Char} {d : Json} :
    (member (.string (String.singleton c)) segment).value? = some d ↔
      (segment = lengthSegment ∧ d = .number (.ofNat 1)) ∨
      (segment = ['0'] ∧ d = .string (String.singleton c)) := by
  rw [FieldValue.value?_eq_some_iff, or_iff_right (member_string_ne_stored _ _ _),
    member_string_eq_derived_iff, String.toList_singleton]
  refine or_congr_right ?_
  constructor
  · rintro ⟨i, c', rfl, hc, rfl⟩
    obtain ⟨rfl, rfl⟩ : i = 0 ∧ c = c' := by simpa [List.getElem?_singleton] using hc
    exact ⟨rfl, rfl⟩
  · rintro ⟨rfl, rfl⟩
    exact ⟨0, c, rfl, rfl, rfl⟩

theorem value?_follow_character {c : Char} {segs : List (List Char)} {d : Json} :
    (follow (.string (String.singleton c)) segs).value? = some d ↔
      (∃ zeros, segs = List.replicate zeros ['0'] ∧ d = .string (String.singleton c)) ∨
      ∃ zeros, segs = List.replicate zeros ['0'] ++ [lengthSegment] ∧ d = .number (.ofNat 1) := by
  -- A zero leads back to the same character, so that the hypothesis applies; a length ends the row.
  induction segs with
  | nil =>
    constructor
    · intro h
      exact .inl ⟨0, rfl, (Option.some.inj h).symm⟩
    · rintro (⟨zeros, -, rfl⟩ | ⟨zeros, h, -⟩)
      · rfl
      · simp at h
  | cons segment rest ih =>
    rw [value?_follow_cons, Option.bind_eq_some_iff]
    simp only [value?_member_character]
    constructor
    · rintro ⟨w, ⟨rfl, rfl⟩ | ⟨rfl, rfl⟩, hrest⟩
      · obtain ⟨rfl, rfl⟩ := value?_follow_number.mp hrest
        exact .inr ⟨0, rfl, rfl⟩
      · rcases ih.mp hrest with ⟨zeros, rfl, rfl⟩ | ⟨zeros, rfl, rfl⟩
        · exact .inl ⟨zeros + 1, rfl, rfl⟩
        · exact .inr ⟨zeros + 1, rfl, rfl⟩
    · rintro (⟨zeros, hsegs, rfl⟩ | ⟨zeros, hsegs, rfl⟩)
      · cases zeros with
        | zero => cases hsegs
        | succ zeros =>
          obtain ⟨rfl, rfl⟩ := List.cons.inj hsegs
          exact ⟨_, .inr ⟨rfl, rfl⟩, ih.mpr (.inl ⟨zeros, rfl, rfl⟩)⟩
      · cases zeros with
        | zero =>
          obtain ⟨rfl, rfl⟩ := List.cons.inj hsegs
          exact ⟨_, .inl ⟨rfl, rfl⟩, rfl⟩
        | succ zeros =>
          obtain ⟨rfl, rfl⟩ := List.cons.inj hsegs
          exact ⟨_, .inr ⟨rfl, rfl⟩, ih.mpr (.inr ⟨zeros, rfl, rfl⟩)⟩

theorem computes_cons_iff {v d : Json} {segment : List Char} {rest : List (List Char)} :
    Computes v (segment :: rest) d ↔
      ∃ w, member v segment = .derived w ∧ (follow w rest).value? = some d := by
  constructor
  · intro h
    cases h with
    | arrayLength xs => exact ⟨_, member_array_eq_derived_iff.mpr ⟨rfl, rfl⟩, rfl⟩
    | stringLength s => exact ⟨_, member_string_eq_derived_iff.mpr (.inl ⟨rfl, rfl⟩), rfl⟩
    | character zeros h =>
      exact ⟨_, member_string_eq_derived_iff.mpr (.inr ⟨_, _, rfl, h, rfl⟩),
        value?_follow_character.mpr (.inl ⟨zeros, rfl, rfl⟩)⟩
    | characterLength zeros h =>
      exact ⟨_, member_string_eq_derived_iff.mpr (.inr ⟨_, _, rfl, h, rfl⟩),
        value?_follow_character.mpr (.inr ⟨zeros, rfl, rfl⟩)⟩
  · rintro ⟨w, hw, hrest⟩
    cases v with
    | object ms => exact absurd hw (member_object_ne_derived ms segment w)
    | array xs =>
      obtain ⟨rfl, rfl⟩ := member_array_eq_derived_iff.mp hw
      obtain ⟨rfl, rfl⟩ := value?_follow_number.mp hrest
      exact .arrayLength xs
    | string s =>
      rcases member_string_eq_derived_iff.mp hw with ⟨rfl, rfl⟩ | ⟨i, c, rfl, hc, rfl⟩
      · obtain ⟨rfl, rfl⟩ := value?_follow_number.mp hrest
        exact .stringLength s
      · rcases value?_follow_character.mp hrest with ⟨zeros, rfl, rfl⟩ | ⟨zeros, rfl, rfl⟩
        · exact .character zeros hc
        · exact .characterLength zeros hc
    | null | bool _ | number _ => simp [member] at hw

theorem follow_eq_derived_iff {u d : Json} {segs : List (List Char)} :
    follow u segs = .derived d ↔ ∃ (steps : List Step) (rest : List (List Char)) (v : Json),
      segs = steps.map Step.segment ++ rest ∧ u.at? steps = some v ∧ Computes v rest d := by
  induction segs generalizing u with
  | nil =>
    constructor
    · intro h
      cases h
    · rintro ⟨steps, rest, v, hsegs, -, hcomputes⟩
      exact absurd (List.append_eq_nil_iff.mp hsegs.symm).2 hcomputes.ne_nil
  | cons segment segs ih =>
    rw [follow_cons, FieldValue.andThen_eq_derived_iff]
    constructor
    · rintro (⟨w, hw, hsegs⟩ | hcomputed)
      · obtain ⟨s, rfl, hchild⟩ := member_eq_stored_iff.mp hw
        obtain ⟨steps, rest, v, rfl, hat, hcomputes⟩ := ih.mp hsegs
        refine ⟨s :: steps, rest, v, rfl, ?_, hcomputes⟩
        rw [Json.at?, hchild]
        exact hat
      · exact ⟨[], segment :: segs, u, rfl, rfl, computes_cons_iff.mpr hcomputed⟩
    · rintro ⟨steps, rest, v, hsegs, hat, hcomputes⟩
      cases steps with
      | nil =>
        obtain rfl := Option.some.inj hat
        obtain rfl : segment :: segs = rest := hsegs
        exact .inr (computes_cons_iff.mp hcomputes)
      | cons s steps =>
        obtain ⟨rfl, rfl⟩ := List.cons.inj hsegs
        obtain ⟨w, hchild, hat⟩ := Option.bind_eq_some_iff.mp hat
        exact .inl ⟨w, member_eq_stored_iff.mpr ⟨s, rfl, hchild⟩,
          ih.mpr ⟨steps, rest, v, rfl, hat, hcomputes⟩⟩

theorem member_string_toDigits (s : String) (i : Nat) :
    member (.string s) (Nat.toDigits 10 i) = match s.toList[i]? with
      | some c => .derived (.string (String.singleton c))
      | none => .absent := by
  have hindex : index? (Nat.toDigits 10 i) = some i := index?_eq_some_iff.mpr rfl
  cases hc : s.toList[i]? <;> simp [member, toDigits_ne_lengthSegment i, hindex, hc]

end Path

namespace Json

/-- An index leads from a string to the character there, whether the string is stored or derived. -/
theorem resolve_extend_index {record : Json} {p s : String}
    (h : (record.resolve p).value? = some (.string s)) (i : Nat) :
    record.resolve (Path.extend p i.repr) = match s.toList[i]? with
      | some c => .derived (.string (String.singleton c))
      | none => .absent := by
  have hindex : (Json.string s).resolve i.repr = Path.member (.string s) (Nat.toDigits 10 i) := by
    rw [resolve_of_notMem _ Nat.repr_ne_empty, Nat.toList_repr]
    rw [Nat.toList_repr]
    exact Path.point_notMem_toDigits i
  rw [record.resolve_extend p Nat.repr_ne_empty]
  rw [FieldValue.andThen_of_detach_eq h]
  · rw [hindex, Path.member_string_toDigits]
  · rw [hindex, Path.member_string_toDigits]
    cases s.toList[i]? <;> rfl

/-- A path leads to a derived value exactly if its segments are the texts of the steps to a place and others
that compute from the value there. In particular the characters of a string, stored or derived, stand at its
indices and make up the string, and nothing stands at an index behind them. -/
theorem resolve_derived_values (record : Json) (p : String) :
    (∀ d, record.resolve p = .derived d ↔ ∃ (steps : List Step) (rest : List (List Char)) (v : Json),
      Path.segments p = steps.map Step.segment ++ rest ∧ rest ≠ [] ∧ record.at? steps = some v ∧
        Path.Computes v rest d) ∧
    ∀ s, (record.resolve p).value? = some (.string s) →
      (∃ parts : List String, parts.length = s.toList.length ∧ (∀ part ∈ parts, part.length = 1) ∧
        (∀ (i : Nat) part, parts[i]? = some part →
          record.resolve (Path.extend p i.repr) = .derived (.string part)) ∧
        String.join parts = s) ∧
      ∀ i : Nat, s.toList.length ≤ i → record.resolve (Path.extend p i.repr) = .absent := by
  constructor
  · intro d
    rw [resolve_eq_follow, Path.follow_eq_derived_iff]
    constructor
    · rintro ⟨steps, rest, v, hsegs, hat, hcomputes⟩
      exact ⟨steps, rest, v, hsegs, hcomputes.ne_nil, hat, hcomputes⟩
    · rintro ⟨steps, rest, v, hsegs, -, hat, hcomputes⟩
      exact ⟨steps, rest, v, hsegs, hat, hcomputes⟩
  · intro s hs
    constructor
    · refine ⟨s.toList.map String.singleton, by simp, by simp, ?_, ?_⟩
      · intro i part hpart
        rw [List.getElem?_map] at hpart
        obtain ⟨c, hc, rfl⟩ := Option.map_eq_some_iff.mp hpart
        rw [resolve_extend_index hs, hc]
      · rw [← String.toList_inj, String.toList_join, List.flatMap_map]
        simp only [String.toList_singleton, List.flatMap_singleton']
    · intro i hi
      rw [resolve_extend_index hs, List.getElem?_eq_none hi]

/-- A record with one text, of two characters and more bytes. -/
def titled : Json := .object [("title", .string "hé")]

/-- A character of a text is a text of one character, which stands at its own index and has no other. -/
theorem resolve_derived_values_titled :
    titled.resolve "title.1.0.length" = .derived (.number (.ofNat 1)) ∧
    (titled.resolve "title.1").value? = some (.string "é") ∧
    titled.resolve (Path.extend "title.1" (Nat.repr 1)) = .absent ∧
    (titled.resolve "title").value? = some (.string "hé") ∧
    ∃ parts : List String, parts.length = 2 ∧ String.join parts = "hé" ∧
      ∀ (i : Nat) part, parts[i]? = some part →
        titled.resolve (Path.extend "title" i.repr) = .derived (.string part) := by
  have hcomputes : Path.Computes (.string "hé")
      (Nat.toDigits 10 1 :: (List.replicate 1 ['0'] ++ [Path.lengthSegment])) (.number (.ofNat 1)) :=
    .characterLength 1 rfl
  have hletter : (titled.resolve "title.1").value? = some (.string "é") := rfl
  have htitle : (titled.resolve "title").value? = some (.string "hé") := rfl
  obtain ⟨hderived, -⟩ := titled.resolve_derived_values "title.1.0.length"
  obtain ⟨-, hbehind⟩ := (titled.resolve_derived_values "title.1").2 _ hletter
  obtain ⟨⟨parts, hlength, -, hparts, hjoin⟩, -⟩ := (titled.resolve_derived_values "title").2 _ htitle
  refine ⟨?_, hletter, hbehind 1 (by decide), htitle, parts, hlength, hjoin, hparts⟩
  exact (hderived _).mpr ⟨[.key "title"], _, _, rfl, hcomputes.ne_nil, rfl, hcomputes⟩

end Json
end Sift
