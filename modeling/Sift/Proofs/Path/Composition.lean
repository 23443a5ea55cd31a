import Sift.Path

/-! # Composition of paths

To go along two paths, one behind the other, is to go along the first one and to go on from the value that
it leads to along the second one. The value at the end is stored in the record exactly if both parts lead
to stored values; whatever is reached through a derived value is derived.
-/
namespace Sift

namespace FieldValue

/-- Goes on from a value. What is reached from a derived value is derived. -/
def andThen (f : FieldValue) (next : Json → FieldValue) : FieldValue :=
  match f with
  | stored v => next v
  | derived v => (next v).detach
  | absent => absent

@[simp] theorem andThen_stored (v : Json) (next : Json → FieldValue) :
    (stored v).andThen next = next v := rfl

@[simp] theorem andThen_derived (v : Json) (next : Json → FieldValue) :
    (derived v).andThen next = (next v).detach := rfl

@[simp] theorem andThen_absent (next : Json → FieldValue) : absent.andThen next = absent := rfl

theorem detach_andThen (f : FieldValue) (next : Json → FieldValue) :
    f.detach.andThen next = (f.andThen next).detach := by
  cases f with
  | stored v => rfl
  | derived v => exact (detach_detach (next v)).symm
  | absent => rfl

theorem andThen_assoc (f : FieldValue) (g h : Json → FieldValue) :
    (f.andThen g).andThen h = f.andThen fun v => (g v).andThen h := by
  cases f with
  | stored v => rfl
  | derived v => exact detach_andThen (g v) h
  | absent => rfl

theorem andThen_self (f : FieldValue) : f.andThen stored = f := by cases f <;> rfl

theorem value?_andThen (f : FieldValue) (next : Json → FieldValue) :
    (f.andThen next).value? = f.value?.bind fun v => (next v).value? := by
  cases f with
  | stored v => rfl
  | derived v => exact value?_detach (next v)
  | absent => rfl

theorem value?_eq_some_iff {f : FieldValue} {v : Json} :
    f.value? = some v ↔ f = stored v ∨ f = derived v := by
  cases f <;> simp

@[simp] theorem detach_ne_stored (f : FieldValue) (v : Json) : f.detach ≠ stored v := by
  cases f <;> simp

theorem detach_eq_derived_iff {f : FieldValue} {v : Json} : f.detach = derived v ↔ f.value? = some v := by
  cases f <;> simp

theorem andThen_eq_stored_iff {f : FieldValue} {next : Json → FieldValue} {w : Json} :
    f.andThen next = stored w ↔ ∃ v, f = stored v ∧ next v = stored w := by
  cases f <;> simp

theorem andThen_eq_derived_iff {f : FieldValue} {next : Json → FieldValue} {w : Json} :
    f.andThen next = derived w ↔
      (∃ v, f = stored v ∧ next v = derived w) ∨ ∃ v, f = derived v ∧ (next v).value? = some w := by
  cases f <;> simp [detach_eq_derived_iff]

theorem andThen_of_detach_eq {f : FieldValue} {next : Json → FieldValue} {v : Json}
    (hv : f.value? = some v) (hnext : (next v).detach = next v) : f.andThen next = next v := by
  cases f with
  | stored u =>
    obtain rfl := Option.some.inj hv
    rfl
  | derived u =>
    obtain rfl := Option.some.inj hv
    exact hnext
  | absent => cases hv

end FieldValue

namespace Path

/-- What the segments lead to from a value that is stored. -/
def follow (v : Json) (segs : List (List Char)) : FieldValue := segs.foldl step (.stored v)

@[simp] theorem follow_nil (v : Json) : follow v [] = .stored v := rfl

theorem step_eq_andThen (f : FieldValue) (segment : List Char) :
    step f segment = f.andThen (member · segment) := by
  cases f <;> rfl

theorem foldl_step_eq_andThen (f : FieldValue) (segs : List (List Char)) :
    segs.foldl step f = f.andThen (follow · segs) := by
  induction segs generalizing f with
  | nil => exact f.andThen_self.symm
  | cons segment rest ih =>
    -- The hypothesis serves twice: from the next value of `f`, and from the member of a stored value.
    have hnext : ∀ v, follow v (segment :: rest) = (member v segment).andThen (follow · rest) :=
      fun v => ih (member v segment)
    calc rest.foldl step (step f segment)
      _ = (step f segment).andThen (follow · rest) := ih (step f segment)
      _ = f.andThen fun v => (member v segment).andThen (follow · rest) := by
        rw [step_eq_andThen, FieldValue.andThen_assoc]
      _ = f.andThen (follow · (segment :: rest)) := by simp only [hnext]

theorem follow_cons (v : Json) (segment : List Char) (rest : List (List Char)) :
    follow v (segment :: rest) = (member v segment).andThen (follow · rest) :=
  foldl_step_eq_andThen (member v segment) rest

theorem follow_append (v : Json) (segs segs' : List (List Char)) :
    follow v (segs ++ segs') = (follow v segs).andThen (follow · segs') := by
  rw [follow, List.foldl_append, foldl_step_eq_andThen]
  rfl

theorem value?_follow_cons (v : Json) (segment : List Char) (rest : List (List Char)) :
    (follow v (segment :: rest)).value? =
      (member v segment).value?.bind fun w => (follow w rest).value? := by
  rw [follow_cons, FieldValue.value?_andThen]

theorem segments_of_ne_empty {path : String} (h : path ≠ "") :
    segments path = Text.pieces '.' path.toList := by
  unfold segments
  split
  · next hnil => exact absurd (String.toList_eq_nil_iff.mp hnil) h
  · rfl

/-- A point between two paths ends the segments of the first one and begins those of the second one. -/
theorem segments_append {p q : String} (hp : p ≠ "") (hq : q ≠ "") :
    segments (p ++ "." ++ q) = segments p ++ segments q := by
  have hne : p ++ "." ++ q ≠ "" := by
    intro h
    simpa using congrArg String.toList h
  have htoList : (p ++ "." ++ q).toList = p.toList ++ '.' :: q.toList := by simp
  rw [segments_of_ne_empty hne, segments_of_ne_empty hp, segments_of_ne_empty hq, htoList,
    Text.pieces_append_cons]

theorem segments_of_notMem {path : String} (hne : path ≠ "") (h : '.' ∉ path.toList) :
    segments path = [path.toList] := by
  rw [segments_of_ne_empty hne, Text.pieces_of_notMem h]

/-- The path that goes one segment further. After the empty path that is the segment itself. -/
def extend (path segment : String) : String := if path = "" then segment else path ++ "." ++ segment

end Path

namespace Json

theorem resolve_eq_follow (record : Json) (path : String) :
    record.resolve path = Path.follow record (Path.segments path) := rfl

theorem resolve_append (record : Json) {p q : String} (hp : p ≠ "") (hq : q ≠ "") :
    record.resolve (p ++ "." ++ q) = (record.resolve p).andThen (·.resolve q) := by
  rw [resolve_eq_follow, Path.segments_append hp hq, Path.follow_append]
  rfl

theorem resolve_extend (record : Json) (p : String) {segment : String} (h : segment ≠ "") :
    record.resolve (Path.extend p segment) = (record.resolve p).andThen (·.resolve segment) := by
  unfold Path.extend
  split
  · next hp =>
    rw [hp]
    rfl
  · next hp => exact record.resolve_append hp h

theorem resolve_of_notMem (v : Json) {segment : String} (hne : segment ≠ "")
    (h : '.' ∉ segment.toList) : v.resolve segment = Path.member v segment.toList := by
  rw [resolve_eq_follow, Path.segments_of_notMem hne h, Path.follow_cons]
  exact FieldValue.andThen_self _

/-- Path resolution composes: the value at the end of both paths is the one that the second path finds from
the value at the end of the first one, it is absent if either is, and it is stored exactly if both are. -/
theorem resolve_composes (record : Json) {p q : String} (hp : p ≠ "") (hq : q ≠ "") :
    (record.resolve p = .absent → record.resolve (p ++ "." ++ q) = .absent) ∧
    ∀ v, (record.resolve p).value? = some v →
      (record.resolve (p ++ "." ++ q) = .absent ↔ v.resolve q = .absent) ∧
      (record.resolve (p ++ "." ++ q)).value? = (v.resolve q).value? ∧
      ((∃ w, record.resolve (p ++ "." ++ q) = .stored w) ↔
        (∃ u, record.resolve p = .stored u) ∧ ∃ w, v.resolve q = .stored w) ∧
      ((∃ w, record.resolve (p ++ "." ++ q) = .derived w) ↔ v.resolve q ≠ .absent ∧
        ((∃ u, record.resolve p = .derived u) ∨ ∃ w, v.resolve q = .derived w)) := by
  rw [resolve_append record hp hq]
  -- How the first path ends decides what becomes of the end of the second one.
  cases record.resolve p with
  | stored u =>
    refine ⟨by simp, fun v hv => ?_⟩
    obtain rfl : u = v := Option.some.inj hv
    cases hsecond : u.resolve q <;> simp [hsecond]
  | derived u =>
    refine ⟨by simp, fun v hv => ?_⟩
    obtain rfl : u = v := Option.some.inj hv
    cases hsecond : u.resolve q <;> simp [hsecond]
  | absent => exact ⟨fun _ => rfl, fun v hv => absurd hv (by simp)⟩

/-- Where a key is empty so is its segment. The character that is computed at the end of the first path is
computed still behind the second one, and a character that is not there is absent in both ways. -/
theorem resolve_composes_emptyKey :
    let record : Json := .object [("", .object [("name", .string "añ")])]
    ".name.1" ≠ "" ∧ "0.length" ≠ "" ∧ "1." ≠ "" ∧
    (record.resolve ".name.1").value? = some (.string "ñ") ∧
    (record.resolve (".name.1" ++ "." ++ "0.length")).value? = some (.number (.ofNat 1)) ∧
    (∃ w, record.resolve (".name.1" ++ "." ++ "0.length") = .derived w) ∧
    record.resolve (".name.1" ++ "." ++ "1.") = .absent := by
  intro record
  have hp : ".name.1" ≠ "" := by decide
  have hq : "0.length" ≠ "" := by decide
  have hq' : "1." ≠ "" := by decide
  have hfound : (record.resolve ".name.1").value? = some (.string "ñ") := rfl
  have hlength : (Json.string "ñ").resolve "0.length" = .derived (.number (.ofNat 1)) := rfl
  obtain ⟨-, hvalue, -, hderived⟩ := (record.resolve_composes hp hq).2 (.string "ñ") hfound
  obtain ⟨habsent, -⟩ := (record.resolve_composes hp hq').2 (.string "ñ") hfound
  rw [hlength] at hvalue hderived
  exact ⟨hp, hq, hq', hfound, hvalue, hderived.mpr ⟨by simp, .inl ⟨.string "ñ", rfl⟩⟩, habsent.mpr rfl⟩

end Json
end Sift
